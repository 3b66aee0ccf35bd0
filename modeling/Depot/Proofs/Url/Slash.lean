import Depot.Proofs.Url.Reference

/-!
# A slash behind an address

A slash that is put behind the text of an address comes behind its path, unless a query or a fragment takes it
(`SlashBehind`, `read_slash`).  It changes neither the scheme nor the authority.  The lemmas follow the way in which
an address is read: the tail first, then what may be in front of it.
-/

namespace Depot

namespace Url

/-- What the second address is if its text is that of the first one with a slash behind it. -/
structure SlashBehind (u after : Url) : Prop where
  scheme : after.scheme = u.scheme
  authority : after.authority = u.authority
  /-- Behind a query or a fragment the slash is not one of the path. -/
  lost : ¬ (u.query = none ∧ u.fragment = none) → after.path = u.path
  gained : u.query = none ∧ u.fragment = none → after.path.IsSlashed ∧ u.path.folder <+: after.path.write

namespace SlashBehind

variable {u after : Url} (behind : SlashBehind u after)

include behind

/-- Whether the slash is one of the path or not, the path ends with one if it did so before. -/
theorem isSlashed (kept : u.path.IsSlashed ∨ u.query = none ∧ u.fragment = none) : after.path.IsSlashed := by
  by_cases plain : u.query = none ∧ u.fragment = none
  · exact (behind.gained plain).1
  · exact behind.lost plain ▸ kept.resolve_right plain

theorem isUnder_iff : after.IsUnder u ↔ u.path.IsSlashed ∨ u.query = none ∧ u.fragment = none := by
  rw [isUnder_iff_path behind.scheme behind.authority]
  by_cases plain : u.query = none ∧ u.fragment = none
  · exact iff_of_true (behind.gained plain).2 (.inr plain)
  · rw [behind.lost plain, UrlPath.folder_prefix_write_iff, or_iff_left plain]

end SlashBehind

/-! ### Behind a path -/

/-- The text has a query or a fragment. -/
def HasTail (text : List Char) : Prop := '?' ∈ text ∨ '#' ∈ text

theorem cutTail_of_not_hasTail {text : List Char} (plain : ¬ HasTail text) : cutTail text = (text, none, none) := by
  obtain ⟨query, fragment⟩ := not_or.mp plain
  simp only [cutTail, cut_of_not_mem fragment, cut_of_not_mem query]

/-- The slash behind a text with a query or a fragment is behind that. -/
theorem cutTail_slash {text : List Char} (tail : HasTail text) :
    ¬ ((cutTail text).2.1 = none ∧ (cutTail text).2.2 = none) ∧ (cutTail (text ++ ['/'])).1 = (cutTail text).1 := by
  by_cases fragment : '#' ∈ text
  case pos =>
    obtain ⟨front, back, before, after⟩ := cut_append_of_mem fragment ['/']
    simp [cutTail, before, after]
  case neg =>
    have before := cut_of_not_mem fragment
    have after : cut '#' (text ++ ['/']) = (text ++ ['/'], none) := cut_of_not_mem (by simpa using fragment)
    obtain ⟨front, back, before', after'⟩ := cut_append_of_mem (tail.resolve_right fragment) ['/']
    simp [cutTail, before, after, before', after']

theorem not_hasTail_slash {text : List Char} (plain : ¬ HasTail text) : ¬ HasTail (text ++ ['/']) := by
  simpa [HasTail] using plain

/-- The slash is one of the path if the text has no query and no fragment.  All that is read here is the tail of
an address; `path` says how a path is made of a text. -/
theorem SlashBehind.ofTail {u after : Url} {text : List Char} {f g : List Char → List Char}
    (path : List Char → UrlPath)
    (scheme : after.scheme = u.scheme) (authority : after.authority = u.authority)
    (query : u.query = (cutTail text).2.1.map f) (fragment : u.fragment = (cutTail text).2.2.map g)
    (before : u.path = path (cutTail text).1) (behind : after.path = path (cutTail (text ++ ['/'])).1)
    (gained : ¬ HasTail text →
      (path (text ++ ['/'])).IsSlashed ∧ (path text).folder <+: (path (text ++ ['/'])).write) :
    SlashBehind u after := by
  by_cases tail : HasTail text
  case pos =>
    obtain ⟨marked, same⟩ := cutTail_slash tail
    refine ⟨scheme, authority, fun _ => ?_, fun none => absurd ?_ marked⟩
    · rw [before, behind, same]
    · simpa [query, fragment] using none
  case neg =>
    have plain := cutTail_of_not_hasTail tail
    have plain' := cutTail_of_not_hasTail (not_hasTail_slash tail)
    refine ⟨scheme, authority, fun marked => absurd ?_ marked, fun _ => ?_⟩
    · simp [query, fragment, plain]
    · rw [before, behind, plain, plain']
      exact gained tail

theorem finish_slash (scheme : List Char) (authority : Option Authority) (start : List (List Char))
    (text : List Char) :
    SlashBehind (finish scheme authority start text) (finish scheme authority start (text ++ ['/'])) := by
  refine .ofTail (readPath (schemeKind scheme) start) rfl rfl rfl rfl rfl rfl fun _ => ?_
  obtain ⟨before, after, isBefore, isAfter, gains⟩ := readPath_concat_slash (schemeKind scheme) start text
  rw [isBefore, isAfter]
  exact ⟨UrlPath.isSlashed_of_gainsSlash gains, UrlPath.folder_prefix_of_gainsSlash gains⟩

theorem readFlat_slash (scheme text : List Char) :
    SlashBehind (readFlat scheme text) (readFlat scheme (text ++ ['/'])) := by
  refine .ofTail (fun text => .flat (Percent.encode Percent.leastSet text)) rfl rfl rfl rfl rfl rfl fun _ => ?_
  have written : (UrlPath.flat (Percent.encode Percent.leastSet (text ++ ['/']))).write =
      (UrlPath.flat (Percent.encode Percent.leastSet text)).write ++ ['/'] := List.flatMap_append
  exact ⟨UrlPath.isSlashed_of_write_eq written, UrlPath.folder_prefix_of_write_eq written⟩

theorem finish_nil_path (scheme : List Char) (authority : Option Authority) :
    (finish scheme authority [] []).path = .segments [[]] := by
  show UrlPath.segments (settle (schemeKind scheme) (walkAll (schemeKind scheme) [] [[]])) = _
  rw [walkAll, arrive_nil, settle]
  split <;> rfl

/-- A path that is only the root does not need the slash. -/
theorem SlashBehind.root (u : Url) (root : u.path = .segments [[]]) : SlashBehind u u := by
  have slashed : u.path.IsSlashed := root ▸ UrlPath.isSlashed_concat_nil []
  exact ⟨rfl, rfl, fun _ => rfl, fun _ => ⟨slashed, UrlPath.folder_prefix_write_iff.mpr slashed⟩⟩

theorem finish_nil_slash (scheme : List Char) (authority : Option Authority) :
    SlashBehind (finish scheme authority [] []) (finish scheme authority [] []) :=
  .root _ (finish_nil_path scheme authority)

/-- An address without a path gets the root as its path. -/
theorem SlashBehind.ofNothing {u after : Url} (scheme : after.scheme = u.scheme)
    (authority : after.authority = u.authority) (plain : u.query = none ∧ u.fragment = none)
    (nothing : u.path.write = []) (root : after.path = .segments [[]]) : SlashBehind u after := by
  have written : after.path.write = u.path.write ++ ['/'] := by
    rw [root, nothing]
    rfl
  exact ⟨scheme, authority, fun marked => absurd plain marked,
    fun _ => ⟨UrlPath.isSlashed_of_write_eq written, UrlPath.folder_prefix_of_write_eq written⟩⟩

/-! ### Behind an authority -/

theorem takeWhile_concat_of_neg {p : Char → Bool} {c : Char} (stops : ¬ p c) (text : List Char) :
    (text ++ [c]).takeWhile p = text.takeWhile p := by
  rw [List.takeWhile_append]
  split
  · next whole =>
    rw [List.takeWhile_cons_of_neg stops, List.append_nil]
    exact ((List.takeWhile_prefix p).eq_of_length whole).symm
  · rfl

theorem drop_takeWhile_concat (p : Char → Bool) (text : List Char) (c : Char) :
    (text ++ [c]).drop (text.takeWhile p).length = text.drop (text.takeWhile p).length ++ [c] :=
  List.drop_append_of_le_length (List.takeWhile_prefix _).length_le

/-- An authority ends before the slash. -/
theorem takeWhile_endsAuthority_slash (kind : SchemeKind) (text : List Char) :
    (text ++ ['/']).takeWhile (!endsAuthority kind ·) = text.takeWhile (!endsAuthority kind ·) :=
  takeWhile_concat_of_neg (by simp [endsAuthority, SchemeKind.separates]) text

theorem readAuthority_slash {scheme text : List Char} {found found' : Authority × List Char}
    (read : readAuthority scheme text = .ok found) (read' : readAuthority scheme (text ++ ['/']) = .ok found') :
    found' = (found.1, found.2 ++ ['/']) := by
  unfold readAuthority at read read'
  simp only [takeWhile_endsAuthority_slash, drop_takeWhile_concat] at read'
  split at read'
  case isTrue => cases read'
  case isFalse =>
    dsimp only at read
    split at read
    case isTrue => cases read
    case isFalse =>
      obtain ⟨login, inside, rfl⟩ := exists_of_map_eq_ok read
      rw [inside] at read'
      obtain rfl := Except.ok.inj read'
      show (_, _) = (_, _)
      rw [List.append_assoc]

theorem behindAuthority_slash (scheme : List Char) (authority : Authority) (rest : List Char) :
    SlashBehind (behindAuthority scheme authority rest) (behindAuthority scheme authority (rest ++ ['/'])) := by
  cases rest with
  | nil =>
    have root : behindAuthority scheme authority ([] ++ ['/']) = finish scheme (some authority) [] [] := by
      simp [behindAuthority, SchemeKind.separates]
    rw [root, behindAuthority]
    split
    · exact .ofNothing rfl rfl ⟨rfl, rfl⟩ rfl (finish_nil_path _ _)
    · exact finish_nil_slash _ _
  | cons c rest =>
    show SlashBehind (if _ then _ else _) (if _ then _ else _)
    split
    · exact finish_slash _ _ _ _
    · split
      · next marked =>
        have tail : HasTail (c :: rest) := by
          rcases marked.2 with rfl | rfl
          · exact .inl List.mem_cons_self
          · exact .inr List.mem_cons_self
        exact .ofTail (fun _ => .segments []) rfl rfl rfl rfl rfl rfl fun plain => absurd tail plain
      · exact finish_slash _ _ _ _

theorem readHierarchy_slash {scheme text : List Char} {u after : Url} (read : readHierarchy scheme text = .ok u)
    (read' : readHierarchy scheme (text ++ ['/']) = .ok after) : SlashBehind u after := by
  obtain ⟨found, front, rfl⟩ := exists_of_map_eq_ok read
  obtain ⟨found', front', rfl⟩ := exists_of_map_eq_ok read'
  obtain rfl := readAuthority_slash front front'
  exact behindAuthority_slash scheme found.1 found.2

/-! ### Files -/

theorem readFileHost_slash (text : List Char) : readFileHost (text ++ ['/']) =
    (readFileHost text).map fun found => (found.1, found.2 ++ ['/']) := by
  unfold readFileHost
  simp only [takeWhile_endsAuthority_slash, drop_takeWhile_concat]
  split
  · rfl
  · split
    · rfl
    · cases Host.read (text.takeWhile (!endsAuthority .file ·)) <;> rfl

theorem any_isDrive_pieces_slash (text : List Char) :
    (pieces isSlash (text ++ ['/'])).any isDrive = (pieces isSlash text).any isDrive := by
  rw [pieces_concat rfl, List.any_append]
  exact Bool.or_false _

theorem behindFileHost_slash (authority : Authority) (rest : List Char) :
    SlashBehind (behindFileHost authority rest) (behindFileHost authority (rest ++ ['/'])) := by
  have drives (text : List Char) : (pieces isSlash (cutTail (text ++ ['/'])).1).any isDrive =
      (pieces isSlash (cutTail text).1).any isDrive := by
    by_cases tail : HasTail text
    · rw [(cutTail_slash tail).2]
    · rw [cutTail_of_not_hasTail tail, cutTail_of_not_hasTail (not_hasTail_slash tail), any_isDrive_pieces_slash]
  cases rest with
  | nil => exact finish_nil_slash _ _
  | cons c rest =>
    have inner : withoutSlash (c :: rest ++ ['/']) = withoutSlash (c :: rest) ++ ['/'] := by
      show (if isSlash c then rest ++ ['/'] else c :: (rest ++ ['/'])) =
        (if isSlash c then rest else c :: rest) ++ ['/']
      split <;> rfl
    rw [behindFileHost, behindFileHost, inner, drives]
    exact finish_slash _ _ _ _

theorem readFileAt_slash {text : List Char} {u after : Url} (read : readFileAt text = .ok u)
    (read' : readFileAt (text ++ ['/']) = .ok after) : SlashBehind u after := by
  obtain ⟨found, front, rfl⟩ := exists_of_map_eq_ok read
  rw [readFileAt, readFileHost_slash, front] at read'
  obtain rfl := Except.ok.inj read'
  exact behindFileHost_slash found.1 found.2

theorem readFile_slash {text : List Char} {u after : Url} (read : readFile none text = .ok u)
    (read' : readFile none (text ++ ['/']) = .ok after) : SlashBehind u after := by
  rcases text with - | ⟨c, - | ⟨d, rest⟩⟩
  case nil =>
    obtain rfl := Except.ok.inj read
    obtain rfl := Except.ok.inj read'
    exact finish_nil_slash _ _
  case cons.nil =>
    obtain rfl := Except.ok.inj read
    by_cases slash : isSlash c = true
    case pos =>
      -- two slashes announce a host, but none follows
      have here : readFile none [c, '/'] = .ok (finish fileScheme (some localHost) [] []) := by
        rw [readFile, slash]
        rfl
      obtain rfl := Except.ok.inj (here.symm.trans read')
      rw [if_pos slash]
      exact finish_nil_slash _ _
    case neg =>
      have here : readFile none [c, '/'] = .ok (finish fileScheme (some localHost) [] ([c] ++ ['/'])) := by
        rw [readFile, eq_false_of_ne_true slash]
        rfl
      obtain rfl := Except.ok.inj (here.symm.trans read')
      rw [if_neg slash]
      exact finish_slash _ _ _ _
  case cons.cons =>
    rw [List.cons_append, List.cons_append, readFile] at read'
    rw [readFile] at read
    split at read
    case isTrue slashes =>
      rw [if_pos slashes] at read'
      exact readFileAt_slash read read'
    case isFalse single =>
      rw [if_neg single] at read'
      split at read
      case isTrue slash =>
        rw [if_pos slash] at read'
        obtain rfl := Except.ok.inj read
        obtain rfl := Except.ok.inj read'
        exact finish_slash _ _ _ (d :: rest)
      case isFalse none =>
        rw [if_neg none] at read'
        obtain rfl := Except.ok.inj read
        obtain rfl := Except.ok.inj read'
        exact finish_slash _ _ _ (c :: d :: rest)

/-! ### Behind a scheme -/

theorem readHierarchy_web_nil {scheme : List Char} (web : schemeKind scheme = .web) :
    readHierarchy scheme [] = .error .emptyHost := by
  have login : readLogin scheme [] = .error .emptyHost := by
    unfold readLogin
    rw [web]
    rfl
  show Except.map _ (Except.map _ (readLogin scheme [])) = _
  rw [login]
  rfl

theorem readBehind_slash_of_other {scheme text : List Char} {u after : Url} (other : schemeKind scheme = .other)
    (unslashed : text.getLast? ≠ some '/') (read : readBehind none scheme text = .ok u)
    (read' : readBehind none scheme (text ++ ['/']) = .ok after) : SlashBehind u after := by
  unfold readBehind at read read'
  rw [other] at read read'
  dsimp only at read read'
  split at read
  · exact readHierarchy_slash read read'
  · next rest single =>
    -- something stands between the first slash and the last one, so they do not announce an authority
    obtain rfl := Except.ok.inj read
    rcases rest with - | ⟨d, rest⟩
    · exact absurd rfl unslashed
    · split at read'
      · next form =>
        obtain rfl := (List.cons.inj (List.cons.inj form).2).1
        exact absurd rfl (single rest)
      · next form =>
        obtain rfl := (List.cons.inj form).2
        obtain rfl := Except.ok.inj read'
        exact finish_slash _ _ _ _
      · next form => exact absurd rfl (form _)
  · next two one =>
    obtain rfl := Except.ok.inj read
    rcases text with - | ⟨c, rest⟩
    · obtain rfl := Except.ok.inj read'
      exact .ofNothing rfl rfl ⟨rfl, rfl⟩ rfl (finish_nil_path _ _)
    · split at read'
      · next form =>
        obtain rfl := (List.cons.inj form).1
        exact absurd rfl (one rest)
      · next form =>
        obtain rfl := (List.cons.inj form).1
        exact absurd rfl (one rest)
      · obtain rfl := Except.ok.inj read'
        exact readFlat_slash _ _

theorem readBehind_slash {scheme text : List Char} {u after : Url} (unslashed : text.getLast? ≠ some '/')
    (read : readBehind none scheme text = .ok u) (read' : readBehind none scheme (text ++ ['/']) = .ok after) :
    SlashBehind u after := by
  cases kind : schemeKind scheme with
  | file =>
    unfold readBehind at read read'
    rw [kind] at read read'
    exact readFile_slash read read'
  | web =>
    unfold readBehind at read read'
    rw [kind] at read read'
    change readHierarchy scheme (text.dropWhile isSlash) = _ at read
    change readHierarchy scheme ((text ++ ['/']).dropWhile isSlash) = _ at read'
    rw [List.dropWhile_append] at read'
    split at read'
    · next slashes =>
      rw [List.isEmpty_iff.mp slashes, readHierarchy_web_nil kind] at read
      cases read
    · exact readHierarchy_slash read read'
  | other =>
    exact readBehind_slash_of_other kind unslashed read read'

/-- A text with a scheme begins with the scheme and a colon. -/
theorem cutScheme?_eq_some_iff {text scheme rest : List Char} : cutScheme? text = some (scheme, rest) ↔
    ∃ c front, text = (c :: front) ++ ':' :: rest ∧ (∀ d ∈ c :: front, isSchemeChar d = true) ∧ c.isAlpha = true ∧
      scheme = (c :: front).map Char.toLower := by
  constructor
  · intro found
    unfold cutScheme? at found
    dsimp only at found
    split at found
    · next c front rest' isFront isRest =>
      split at found
      · next alpha =>
        obtain ⟨rfl, rfl⟩ := Prod.mk.inj (Option.some.inj found)
        refine ⟨c, front, ?_, ?_, alpha, ?_⟩
        · rw [← isFront, ← isRest]
          exact (List.prefix_iff_eq_append.mp (List.takeWhile_prefix _)).symm
        · exact isFront ▸ fun d hd => List.mem_takeWhile_imp hd
        · rw [isFront]
      · cases found
    · cases found
  · rintro ⟨c, front, rfl, all, alpha, rfl⟩
    have front : ((c :: front) ++ ':' :: rest).takeWhile isSchemeChar = c :: front := by
      rw [List.takeWhile_append_of_pos all, List.takeWhile_cons_of_neg (by decide), List.append_nil]
    simp only [cutScheme?, front, List.drop_left, alpha, if_true]

theorem readFrom_slash {text : List Char} {u after : Url} (unslashed : text.getLast? ≠ some '/')
    (read : readFrom none text = .ok u) (read' : readFrom none (text ++ ['/']) = .ok after) :
    SlashBehind u after := by
  unfold readFrom at read read'
  cases found : cutScheme? text with
  | none =>
    rw [found] at read
    cases read
  | some parts =>
    obtain ⟨scheme, rest⟩ := parts
    obtain ⟨c, front, rfl, all, alpha, isScheme⟩ := cutScheme?_eq_some_iff.mp found
    have found' : cutScheme? ((c :: front) ++ ':' :: rest ++ ['/']) = some (scheme, rest ++ ['/']) :=
      cutScheme?_eq_some_iff.mpr ⟨c, front, by simp, all, alpha, isScheme⟩
    rw [found] at read
    rw [found'] at read'
    refine readBehind_slash ?_ read read'
    intro slash
    obtain ⟨behind, rfl⟩ := List.getLast?_eq_some_iff.mp slash
    have ends : (c :: front) ++ ':' :: (behind ++ ['/']) = ((c :: front) ++ ':' :: behind) ++ ['/'] := by simp
    rw [ends, List.getLast?_concat] at unslashed
    exact unslashed rfl

/-! ### Behind the text of an address -/

section Clean

variable {c : Char} (counts : isMargin c = false) (text : List Char)

include counts

theorem dropWhile_isMargin_concat : (text ++ [c]).dropWhile isMargin = text.dropWhile isMargin ++ [c] := by
  rw [List.dropWhile_append, List.dropWhile_cons_of_neg (by simp [counts])]
  split
  · next blank => rw [List.isEmpty_iff.mp blank, List.nil_append]
  · rfl

theorem filter_concat_of_not_isMargin : (text ++ [c]).filter (fun c => !(c = '\t' || c = '\n' || c = '\r')) =
    text.filter (fun c => !(c = '\t' || c = '\n' || c = '\r')) ++ [c] := by
  have other (d : Char) (margin : isMargin d = true) : c ≠ d := by
    rintro rfl
    rw [counts] at margin
    cases margin
  rw [List.filter_append,
    List.filter_cons_of_pos (by simp [other '\t' rfl, other '\n' rfl, other '\r' rfl]), List.filter_nil]

/-- At a character that counts, a text is not trimmed. -/
theorem clean_concat : clean (text ++ [c]) =
    (text.dropWhile isMargin).filter (fun c => !(c = '\t' || c = '\n' || c = '\r')) ++ [c] := by
  rw [clean, dropWhile_isMargin_concat counts, List.reverse_append, List.reverse_singleton, List.singleton_append,
    List.dropWhile_cons_of_neg (by simp [counts]), List.reverse_cons, List.reverse_reverse]
  exact filter_concat_of_not_isMargin counts _

theorem clean_slash : clean (text ++ [c] ++ ['/']) = clean (text ++ [c]) ++ ['/'] := by
  have slash : isMargin '/' = false := rfl
  rw [clean_concat slash, clean_concat counts, dropWhile_isMargin_concat counts,
    filter_concat_of_not_isMargin counts]

end Clean

/-- **A slash behind the text of an address** is behind its path, unless it has a query or a fragment. -/
theorem read_slash {text : String} {u after : Url} (tight : text.toList.getLast?.any isMargin = false)
    (unslashed : text.toList.getLast? ≠ some '/') (read : Url.read text = .ok u)
    (read' : Url.read (text ++ "/") = .ok after) : SlashBehind u after := by
  unfold Url.read at read read'
  rw [String.toList_append] at read'
  rcases List.eq_nil_or_concat' text.toList with empty | ⟨front, c, split⟩
  · rw [empty] at read
    cases read
  · rw [split] at read read' tight unslashed
    have counts : isMargin c = false := by rwa [List.getLast?_concat] at tight
    have behind : clean (front ++ [c] ++ "/".toList) = clean (front ++ [c]) ++ ['/'] := clean_slash counts front
    rw [behind] at read'
    refine readFrom_slash ?_ read read'
    rw [clean_concat counts, List.getLast?_concat]
    rwa [List.getLast?_concat] at unslashed

end Url

end Depot
