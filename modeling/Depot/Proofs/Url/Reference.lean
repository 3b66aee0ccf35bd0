import Depot.Proofs.Url.Path

/-!
# Relative references

A reference that has no scheme, does not begin with a slash and never climbs above its start (`Descends`) leads to
a place below the directory of its base: the same scheme, the same authority, and a path that begins with the path
of the base (`resolve_isUnder`).  The base is any address that was read (`read_isTidy`) and whose path ends with
a slash.
-/

namespace Depot

theorem exists_of_map_eq_ok {ε α β : Type} {x : Except ε α} {f : α → β} {b : β} (mapped : x.map f = .ok b) :
    ∃ a, x = .ok a ∧ f a = b := by
  cases x with
  | error e => cases mapped
  | ok a => exact ⟨a, rfl, Except.ok.inj mapped⟩

namespace Url

/-! ### Addresses that are read -/

/-- No segment of the path holds a slash, and the path is settled. -/
def IsTidy (u : Url) : Prop := ∀ list, u.path = .segments list → Unslashed list ∧ settle u.kind list = list

theorem finish_isTidy (scheme : List Char) (authority : Option Authority) (text : List Char) :
    (finish scheme authority [] text).IsTidy := by
  intro list form
  obtain rfl := UrlPath.segments.inj form
  exact ⟨readPath_unslashed _ _, settle_idem _ _⟩

theorem readFlat_isTidy (scheme text : List Char) : (readFlat scheme text).IsTidy := fun _ form => nomatch form

theorem isTidy_of_no_segments {u : Url} (other : u.kind = .other) (none : u.path = .segments []) : u.IsTidy := by
  intro list form
  obtain rfl := UrlPath.segments.inj (none.symm.trans form)
  exact ⟨List.forall_mem_nil _, settle_of_ne (by simp [other]) _⟩

theorem behindAuthority_isTidy (scheme : List Char) (authority : Authority) (rest : List Char) :
    (behindAuthority scheme authority rest).IsTidy := by
  cases rest with
  | cons c rest =>
    show Url.IsTidy (if _ then _ else if _ then _ else _)
    split
    · exact finish_isTidy _ _ _
    · split
      · next marked => exact isTidy_of_no_segments marked.1 rfl
      · exact finish_isTidy _ _ _
  | nil =>
    show Url.IsTidy (if _ then _ else _)
    split
    · next other => exact isTidy_of_no_segments other rfl
    · exact finish_isTidy _ _ _

theorem readHierarchy_isTidy {scheme text : List Char} {u : Url} (read : readHierarchy scheme text = .ok u) :
    u.IsTidy := by
  obtain ⟨found, -, rfl⟩ := exists_of_map_eq_ok read
  exact behindAuthority_isTidy scheme found.1 found.2

theorem readFile_isTidy {text : List Char} {u : Url} (read : readFile none text = .ok u) : u.IsTidy := by
  unfold readFile at read
  split at read
  · split at read
    · obtain ⟨found, -, rfl⟩ := exists_of_map_eq_ok read
      exact finish_isTidy _ _ _
    · split at read <;>
      · obtain rfl := Except.ok.inj read
        exact finish_isTidy _ _ _
  · obtain rfl := Except.ok.inj read
    split <;> exact finish_isTidy _ _ _
  · obtain rfl := Except.ok.inj read
    exact finish_isTidy _ _ _

theorem read_isTidy {text : String} {u : Url} (read : Url.read text = .ok u) : u.IsTidy := by
  unfold Url.read readFrom at read
  split at read
  · next scheme rest _ =>
    unfold readBehind at read
    cases kind : schemeKind scheme with
    | file =>
      rw [kind] at read
      exact readFile_isTidy read
    | web =>
      rw [kind] at read
      exact readHierarchy_isTidy read
    | other =>
      rw [kind] at read
      dsimp only at read
      split at read
      · exact readHierarchy_isTidy read
      · obtain rfl := Except.ok.inj read
        exact finish_isTidy _ _ _
      · obtain rfl := Except.ok.inj read
        exact readFlat_isTidy _ _
  · cases read
  · next none => cases none

theorem scheme_of_kind_file {u : Url} (file : u.kind = .file) : u.scheme = fileScheme := by
  unfold kind schemeKind at file
  split at file
  · next same => exact same
  · split at file <;> cases file

/-- The path of an address, if it ends with a slash and the address is not flat. -/
theorem exists_folder {u : Url} (tidy : u.IsTidy) (slashed : u.path.IsSlashed) (deep : u.isFlat = false) :
    ∃ folder, u.path = .segments (folder ++ [[]]) ∧ settle u.kind (folder ++ [[]]) = folder ++ [[]] := by
  cases form : u.path with
  | flat text => simp [isFlat, form] at deep
  | segments list =>
    obtain ⟨unslashed, settled⟩ := tidy list form
    obtain ⟨folder, rfl⟩ := UrlPath.eq_concat_nil_of_isSlashed unslashed (form ▸ slashed)
    exact ⟨folder, rfl, settled⟩

/-! ### Places below an address -/

/-- The address is at the same place as the root, and its path begins with the path of the root. -/
structure IsUnder (u root : Url) : Prop where
  scheme : u.scheme = root.scheme
  host : u.authority.map Authority.host = root.authority.map Authority.host
  port : u.authority.map Authority.port = root.authority.map Authority.port
  path : root.path.folder <+: u.path.write

theorem IsUnder.trans {u folder root : Url} (under : u.IsUnder folder) (under' : folder.IsUnder root) :
    u.IsUnder root where
  scheme := under.scheme.trans under'.scheme
  host := under.host.trans under'.host
  port := under.port.trans under'.port
  path := under'.path.trans (folder.path.write_prefix_folder.trans under.path)

theorem isUnder_iff_path {u root : Url} (scheme : u.scheme = root.scheme)
    (authority : u.authority = root.authority) : u.IsUnder root ↔ root.path.folder <+: u.path.write :=
  ⟨IsUnder.path, fun inside => ⟨scheme, congrArg _ authority, congrArg _ authority, inside⟩⟩

/-- An address is under itself exactly if its path ends with a slash. -/
theorem isUnder_self_iff {u : Url} : u.IsUnder u ↔ u.path.IsSlashed :=
  (isUnder_iff_path rfl rfl).trans UrlPath.folder_prefix_write_iff

/-! ### References that stay below their base -/

/-- The reference leads nowhere but down. -/
structure Descends (kind : SchemeKind) (text : List Char) : Prop where
  noScheme : cutScheme? text = none
  noSlash : text.head?.any isSlash = false
  noDrive : kind = .file → startsWithDrive text = false
  below : NeverAbove (pieces kind.separates (cutTail text).1)

instance (kind : SchemeKind) (text : List Char) : Decidable (Descends kind text) :=
  decidable_of_iff (cutScheme? text = none ∧ text.head?.any isSlash = false ∧
      (kind = .file → startsWithDrive text = false) ∧ NeverAbove (pieces kind.separates (cutTail text).1))
    ⟨fun ⟨noScheme, noSlash, noDrive, below⟩ => ⟨noScheme, noSlash, noDrive, below⟩,
      fun descends => ⟨descends.noScheme, descends.noSlash, descends.noDrive, descends.below⟩⟩

/-- A reference that begins with a name leads along the text, from the directory of the base. -/
theorem resolve_name {base : Url} {c : Char} {rest : List Char} (descends : Descends base.kind (c :: rest))
    (query : c ≠ '?') (fragment : c ≠ '#') {folder : List (List Char)}
    (isFolder : base.path = .segments (folder ++ [[]])) :
    resolve base (c :: rest) = .ok (finish base.scheme base.authority folder (c :: rest)) := by
  have noSlash : isSlash c = false := descends.noSlash
  have segments : base.segments = folder ++ [[]] := by rw [Url.segments, isFolder]
  unfold resolve
  split
  · next form => cases form
  · next form => exact absurd (List.cons.inj form).1 fragment
  · next form => exact absurd (List.cons.inj form).1 query
  · next form =>
    obtain ⟨rfl, rfl⟩ := List.cons.inj form
    split
    · next file =>
      have directed : directory .file base.segments = folder := by
        rw [segments, directory, List.getLastD_concat]
        exact List.dropLast_concat
      have there : fileFromDirectory (some base) (c :: rest) =
          finish base.scheme base.authority folder (c :: rest) := by
        rw [fileFromDirectory, descends.noDrive file, directed, scheme_of_kind_file file]
        rfl
      rw [← there]
      cases rest <;> simp [readFile, noSlash]
    · rw [noSlash, segments, List.dropLast_concat]
      rfl

/-- **A reference that leads nowhere but down stays below its base.** -/
theorem resolve_isUnder {base : Url} {text : List Char} (tidy : base.IsTidy) (slashed : base.path.IsSlashed)
    (descends : Descends base.kind text) (deep : base.isFlat = false ∨ text.head? = some '#') :
    ∃ u, resolve base text = .ok u ∧ u.IsUnder base := by
  have here {u : Url} (scheme : u.scheme = base.scheme) (authority : u.authority = base.authority)
      (path : u.path = base.path) : u.IsUnder base := by
    rw [isUnder_iff_path scheme authority, path]
    exact UrlPath.folder_prefix_write_iff.mpr slashed
  rcases text with - | ⟨c, rest⟩
  case nil => exact ⟨_, rfl, here rfl rfl rfl⟩
  case cons =>
    by_cases fragment : c = '#'
    case pos =>
      subst fragment
      exact ⟨_, rfl, here rfl rfl rfl⟩
    by_cases query : c = '?'
    case pos =>
      subst query
      exact ⟨_, rfl, here rfl rfl rfl⟩
    obtain ⟨folder, isFolder, settled⟩ := exists_folder tidy slashed
      (deep.resolve_right fun marked => fragment (Option.some.inj marked))
    obtain ⟨more, something, walked⟩ := readPath_descends settled descends.below
    refine ⟨_, resolve_name descends query fragment isFolder, rfl, rfl, rfl, ?_⟩
    show base.path.folder <+: (readPath base.kind folder (cutTail (c :: rest)).1).write
    rw [UrlPath.folder_of_isSlashed slashed, isFolder, walked]
    exact UrlPath.folder_prefix_behind folder something

theorem readFrom_eq_resolve {base : Url} {text : List Char} (noScheme : cutScheme? text = none) :
    readFrom (some base) text =
      if base.isFlat = false ∨ text.head? = some '#' then resolve base text else .error .flatBase := by
  unfold readFrom
  rw [noScheme]
  cases flat : base.isFlat <;> by_cases marked : text.head? = some '#' <;> simp [flat, marked]

end Url

end Depot
