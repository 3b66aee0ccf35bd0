import Depot.Proofs.Text.Split
import Depot.Url.Reference
import Mathlib.Data.List.Basic

/-!
# Where a path leads

A path is walked segment by segment.  As long as the steps up never outnumber the steps down before them
(`NeverAbove`), the walk stays below the place where it starts: all segments of that place are still there at its
end, and something comes behind them (`walkAll_descends`, `readPath_descends`).

A slash behind a text puts a slash behind the path to which it leads, unless there is one already
(`readPath_concat_slash`).  The segments of a path hold no slash (`Unslashed`), so its written form ends with
a slash only if its last segment is empty (`eq_concat_nil_of_slashed`).
-/

namespace Depot

namespace Url

/-! ### Segments without slashes -/

/-- No segment holds a slash. -/
def Unslashed (segments : List (List Char)) : Prop := ∀ segment ∈ segments, '/' ∉ segment

theorem slash_not_mem_encode (special : List Char) {text : List Char} (unslashed : '/' ∉ text) :
    '/' ∉ Percent.encode special text := by
  have digit (n : Nat) : Percent.hexDigit n ≠ '/' := by
    have all : ∀ d < 16, (Nat.digitChar d).toUpper ≠ '/' := by decide
    exact all (n % 16) (Nat.mod_lt n (by decide))
  rw [Percent.encode, List.mem_flatMap]
  rintro ⟨c, inside, slash⟩
  split at slash
  · exact unslashed (List.mem_singleton.mp slash ▸ inside)
  · obtain ⟨byte, -, slash⟩ := List.mem_flatMap.mp slash
    simp only [Percent.encodeByte, List.mem_cons, List.not_mem_nil, or_false] at slash
    rcases slash with percent | high | low
    · exact absurd percent (by decide)
    · exact digit _ high.symm
    · exact digit _ low.symm

theorem slash_not_mem_keepSegment (kind : SchemeKind) {segment : List Char} (unslashed : '/' ∉ segment) :
    '/' ∉ keepSegment kind segment := by
  rw [keepSegment]
  split
  · rw [List.mem_append, List.mem_singleton]
    rintro (inside | colon)
    · exact unslashed (List.mem_of_mem_take inside)
    · exact absurd colon (by decide)
  · exact slash_not_mem_encode _ unslashed

section Walk

variable (kind : SchemeKind) {walked : List (List Char)} {segment : List Char}

theorem walk_unslashed (before : Unslashed walked) (unslashed : '/' ∉ segment) :
    Unslashed (walk kind walked segment) := by
  unfold walk
  split
  · split
    · next last rest =>
      split
      · exact before
      · exact (List.forall_mem_cons.mp before).2
    · exact before
  · split
    · exact before
    · exact List.forall_mem_cons.mpr ⟨slash_not_mem_keepSegment kind unslashed, before⟩

theorem arrive_unslashed (before : Unslashed walked) (unslashed : '/' ∉ segment) :
    Unslashed (arrive kind walked segment) := by
  have after := walk_unslashed kind before unslashed
  rw [arrive]
  split
  · exact List.forall_mem_cons.mpr ⟨List.not_mem_nil, after⟩
  · exact after

theorem walkAll_unslashed {segments : List (List Char)} (before : Unslashed walked)
    (unslashed : Unslashed segments) : Unslashed (walkAll kind walked segments) := by
  have reversed {segments : List (List Char)} (unslashed : Unslashed segments) : Unslashed segments.reverse :=
    fun segment inside => unslashed segment (List.mem_reverse.mp inside)
  fun_induction walkAll kind walked segments with
  | case1 => exact reversed before
  | case2 walked segment => exact reversed (arrive_unslashed kind before (unslashed segment List.mem_cons_self))
  | case3 walked segment rest _ ih =>
    obtain ⟨here, later⟩ := List.forall_mem_cons.mp unslashed
    exact ih (walk_unslashed kind before here) later

end Walk

theorem settle_unslashed (kind : SchemeKind) {path : List (List Char)} (unslashed : Unslashed path) :
    Unslashed (settle kind path) := by
  unfold settle
  split
  · split
    · exact List.forall_mem_cons.mpr ⟨List.not_mem_nil, List.forall_mem_nil _⟩
    · exact fun segment inside => unslashed segment ((List.dropWhile_sublist _).mem inside)
  · exact unslashed

theorem readPath_unslashed (kind : SchemeKind) (text : List Char) :
    Unslashed (settle kind (walkAll kind [] (pieces kind.separates text))) := by
  apply settle_unslashed
  apply walkAll_unslashed kind (List.forall_mem_nil _)
  intro piece isPiece slash
  have plain := plain_of_mem_pieces isPiece '/' slash
  simp [SchemeKind.separates] at plain

/-! ### Settled paths -/

@[simp] theorem settle_nil : settle .file [] = [[]] := rfl

@[simp] theorem settle_nil_cons (path : List (List Char)) : settle .file ([] :: path) = settle .file path := rfl

@[simp] theorem settle_cons (c : Char) (segment : List Char) (path : List (List Char)) :
    settle .file ((c :: segment) :: path) = (c :: segment) :: path := rfl

theorem settle_of_ne {kind : SchemeKind} (other : kind ≠ .file) (path : List (List Char)) :
    settle kind path = path :=
  if_neg other

theorem settle_idem (kind : SchemeKind) (path : List (List Char)) :
    settle kind (settle kind path) = settle kind path := by
  by_cases file : kind = .file
  case neg => simp only [settle_of_ne file]
  case pos =>
    subst file
    induction path with
    | nil => rfl
    | cons segment rest ih => cases segment <;> simp [ih]

/-- A settled path of a file begins with an empty segment only if that is all. -/
theorem eq_nil_of_settle {path rest : List (List Char)} (settled : settle .file path = [] :: rest) : rest = [] := by
  induction path with
  | nil => exact (List.cons.inj settled).2.symm
  | cons segment path ih =>
    cases segment with
    | nil => exact ih settled
    | cons c segment => cases (List.cons.inj settled).1

theorem settle_ne_nil (kind : SchemeKind) {path : List (List Char)} (nonempty : path ≠ []) :
    settle kind path ≠ [] := by
  by_cases file : kind = .file
  case neg => rwa [settle_of_ne file]
  case pos =>
    subst file
    clear nonempty
    induction path with
    | nil => exact List.cons_ne_nil _ _
    | cons segment rest ih => cases segment <;> simp [ih]

/-- What comes behind the directory of a settled path does not unsettle it. -/
theorem settle_behind {kind : SchemeKind} {folder more : List (List Char)}
    (settled : settle kind (folder ++ [[]]) = folder ++ [[]]) (nonempty : more ≠ []) :
    ∃ rest ≠ [], settle kind (folder ++ more) = folder ++ rest := by
  by_cases file : kind = .file
  case neg => exact ⟨more, nonempty, settle_of_ne file _⟩
  case pos =>
    subst file
    rcases folder with - | ⟨- | ⟨c, segment⟩, folder⟩
    case nil => exact ⟨_, settle_ne_nil .file nonempty, rfl⟩
    case cons.nil =>
      exact absurd (eq_nil_of_settle settled) (List.append_ne_nil_of_right_ne_nil _ (List.cons_ne_nil _ _))
    case cons.cons => exact ⟨more, nonempty, rfl⟩

/-! ### Steps down and up -/

/-- How many steps below the start a walk is after one more segment, as long as it does not climb above. -/
def depthAfter (depth : Nat) (segment : List Char) : Option Nat :=
  if isDotDot segment then if depth = 0 then none else some (depth - 1)
  else if isDot segment then some depth
  else some (depth + 1)

/-- The steps up never outnumber the steps down before them. -/
def NeverAbove (segments : List (List Char)) : Prop := (segments.foldlM depthAfter 0).isSome

instance (segments : List (List Char)) : Decidable (NeverAbove segments) :=
  inferInstanceAs (Decidable (Option.isSome _ = true))

section Descent

variable (kind : SchemeKind) {depth : Nat} {below : List (List Char)} (start : List (List Char))

/-- A step that does not climb above the start leaves it as it is.  (There may be more below it than the depth
says: a drive is not left by a step up.) -/
theorem walk_descends {after : Nat} {segment : List Char} (step : depthAfter depth segment = some after)
    (deep : depth ≤ below.length) :
    ∃ below', walk kind (below ++ start) segment = below' ++ start ∧ after ≤ below'.length := by
  unfold depthAfter at step
  unfold walk
  split at step
  · next up =>
    obtain ⟨positive, rfl⟩ : depth ≠ 0 ∧ depth - 1 = after := by simpa using step
    rw [if_pos up]
    rcases below with - | ⟨last, before⟩
    · exact absurd (Nat.le_zero.mp deep) positive
    · rw [List.length_cons] at deep
      show ∃ below', (if isDrive last then last :: before ++ start else before ++ start) = _ ∧ _
      split
      · exact ⟨last :: before, rfl, by rw [List.length_cons]; omega⟩
      · exact ⟨before, rfl, by omega⟩
  · next down =>
    rw [if_neg down]
    split at step
    · next here =>
      obtain rfl := Option.some.inj step
      exact ⟨below, by rw [if_pos here], deep⟩
    · next named =>
      obtain rfl := Option.some.inj step
      exact ⟨keepSegment kind segment :: below, by rw [if_neg named]; rfl, Nat.succ_le_succ deep⟩

theorem arrive_descends {after : Nat} {segment : List Char} (step : depthAfter depth segment = some after)
    (deep : depth ≤ below.length) :
    ∃ below', arrive kind (below ++ start) segment = below' ++ start ∧ below' ≠ [] := by
  obtain ⟨below', same, deep'⟩ := walk_descends kind start step deep
  rw [arrive, same]
  split
  · exact ⟨[] :: below', rfl, List.cons_ne_nil _ _⟩
  · next named =>
    -- a segment that is no dots is one step down
    rw [Bool.or_eq_true, not_or] at named
    rw [depthAfter, if_neg named.1, if_neg named.2] at step
    obtain rfl := Option.some.inj step
    exact ⟨below', rfl, List.ne_nil_of_length_pos (Nat.lt_of_lt_of_le (Nat.succ_pos _) deep')⟩

/-- A walk that never climbs above its start leaves all segments of the start, and comes to something behind them. -/
theorem walkAll_descends {segments : List (List Char)} (within : (segments.foldlM depthAfter depth).isSome)
    (deep : depth ≤ below.length) (nonempty : segments ≠ []) :
    ∃ more ≠ [], walkAll kind (below ++ start) segments = start.reverse ++ more := by
  induction segments generalizing depth below with
  | nil => exact absurd rfl nonempty
  | cons segment rest ih =>
    rw [List.foldlM_cons] at within
    cases step : depthAfter depth segment with
    | none =>
      rw [step] at within
      cases within
    | some after =>
      rw [step] at within
      cases rest with
      | nil =>
        obtain ⟨below', arrived, more⟩ := arrive_descends kind start step deep
        refine ⟨below'.reverse, mt List.reverse_eq_nil_iff.mp more, ?_⟩
        rw [walkAll, arrived, List.reverse_append]
      | cons next rest =>
        obtain ⟨below', walked, deep'⟩ := walk_descends kind start step deep
        rw [walkAll, walked]
        · exact ih within deep' (List.cons_ne_nil _ _)
        · exact List.cons_ne_nil _ _

end Descent

/-- A text that never climbs above its start leads to something behind a settled directory. -/
theorem readPath_descends {kind : SchemeKind} {folder : List (List Char)} {text : List Char}
    (settled : settle kind (folder ++ [[]]) = folder ++ [[]]) (within : NeverAbove (pieces kind.separates text)) :
    ∃ more ≠ [], readPath kind folder text = .segments (folder ++ more) := by
  obtain ⟨more, something, walked⟩ : ∃ more ≠ [],
      walkAll kind ([] ++ folder.reverse) (pieces kind.separates text) = folder.reverse.reverse ++ more :=
    walkAll_descends kind folder.reverse within (Nat.le_refl 0) (pieces_ne_nil _ text)
  obtain ⟨rest, nonempty, settled⟩ := settle_behind settled something
  refine ⟨rest, nonempty, ?_⟩
  rw [List.nil_append, List.reverse_reverse] at walked
  rw [readPath, walked, settled]

/-! ### A slash behind a path -/

/-- The second path is the first one with an empty segment behind it, unless it has one already. -/
def GainsSlash (before after : List (List Char)) : Prop :=
  after = before ++ [[]] ∨ after = before ∧ ∃ folder, before = folder ++ [[]]

theorem walkAll_concat (kind : SchemeKind) (walked segments : List (List Char)) (last : List Char) :
    walkAll kind walked (segments ++ [last]) = (arrive kind (segments.foldl (walk kind) walked) last).reverse := by
  induction segments generalizing walked with
  | nil => rfl
  | cons segment rest ih =>
    rw [List.cons_append, walkAll, ih, List.foldl_cons]
    exact List.append_ne_nil_of_right_ne_nil _ (List.cons_ne_nil _ _)

theorem arrive_nil (kind : SchemeKind) (walked : List (List Char)) : arrive kind walked [] = [] :: walked := by
  have kept : keepSegment kind [] = [] := by simp [keepSegment, isDrive, Percent.encode]
  show keepSegment kind [] :: walked = [] :: walked
  rw [kept]

theorem walkAll_gainsSlash (kind : SchemeKind) (walked : List (List Char)) {segments : List (List Char)}
    (nonempty : segments ≠ []) :
    GainsSlash (walkAll kind walked segments) (walkAll kind walked (segments ++ [[]])) := by
  obtain ⟨front, last, rfl⟩ := (List.eq_nil_or_concat' segments).resolve_left nonempty
  rw [walkAll_concat, walkAll_concat, List.foldl_append, List.foldl_cons, List.foldl_nil, arrive_nil,
    List.reverse_cons, arrive]
  split
  · exact .inr ⟨(List.reverse_cons ..).symm, _, List.reverse_cons ..⟩
  · exact .inl rfl

theorem settle_gainsSlash (kind : SchemeKind) {before after : List (List Char)} (gains : GainsSlash before after) :
    GainsSlash (settle kind before) (settle kind after) := by
  by_cases file : kind = .file
  case neg => rwa [settle_of_ne file, settle_of_ne file]
  case pos =>
    subst file
    rcases gains with rfl | ⟨rfl, folder, rfl⟩
    · induction before with
      | nil => exact .inr ⟨rfl, [], rfl⟩
      | cons segment rest ih =>
        cases segment with
        | nil => exact ih
        | cons c segment => exact .inl rfl
    · refine .inr ⟨rfl, ?_⟩
      induction folder with
      | nil => exact ⟨[], rfl⟩
      | cons segment rest ih =>
        cases segment with
        | nil => exact ih
        | cons c segment => exact ⟨(c :: segment) :: rest, rfl⟩

/-- A slash behind a text comes behind the path. -/
theorem readPath_concat_slash (kind : SchemeKind) (start : List (List Char)) (text : List Char) :
    ∃ before after, readPath kind start text = .segments before ∧
      readPath kind start (text ++ ['/']) = .segments after ∧ GainsSlash before after := by
  refine ⟨_, _, rfl, rfl, ?_⟩
  rw [pieces_concat (by simp [SchemeKind.separates])]
  exact settle_gainsSlash kind (walkAll_gainsSlash kind start.reverse (pieces_ne_nil _ text))

end Url

/-! ### Written paths -/

namespace UrlPath

/-- The written path ends with a slash. -/
def IsSlashed (path : UrlPath) : Prop := path.write.getLast? = some '/'

instance (path : UrlPath) : Decidable path.IsSlashed := inferInstanceAs (Decidable (_ = _))

/-- The written path, with a slash behind it if it has none. -/
def folder (path : UrlPath) : List Char := if path.IsSlashed then path.write else path.write ++ ['/']

theorem folder_of_isSlashed {path : UrlPath} (slashed : path.IsSlashed) : path.folder = path.write := if_pos slashed

theorem write_prefix_folder (path : UrlPath) : path.write <+: path.folder := by
  unfold folder
  split
  · exact List.prefix_rfl
  · exact List.prefix_append _ _

theorem folder_prefix_write_iff {path : UrlPath} : path.folder <+: path.write ↔ path.IsSlashed := by
  constructor
  · intro inside
    by_contra unslashed
    rw [folder, if_neg unslashed] at inside
    have shorter := inside.length_le
    rw [List.length_append, List.length_singleton] at shorter
    omega
  · intro slashed
    exact folder_of_isSlashed slashed ▸ List.prefix_rfl

theorem write_segments_append (front back : List (List Char)) :
    (segments (front ++ back)).write = (segments front).write ++ (segments back).write :=
  List.flatMap_append

/-- A path ends with a slash only if its last segment is empty. -/
theorem eq_concat_nil_of_isSlashed {list : List (List Char)} (unslashed : Url.Unslashed list)
    (slashed : (segments list).IsSlashed) : ∃ front, list = front ++ [[]] := by
  rcases List.eq_nil_or_concat' list with rfl | ⟨front, last, rfl⟩
  · cases slashed
  · refine ⟨front, ?_⟩
    rcases List.eq_nil_or_concat' last with rfl | ⟨start, c, rfl⟩
    · rfl
    · -- the last character is one of the last segment
      exfalso
      have isLast : (segments (front ++ [start ++ [c]])).write.getLast? = some c := by
        rw [write_segments_append]
        show ((segments front).write ++ ('/' :: (start ++ [c]) ++ [])).getLast? = some c
        rw [List.append_nil, ← List.cons_append, ← List.append_assoc, List.getLast?_concat]
      obtain rfl := Option.some.inj (isLast.symm.trans slashed)
      exact unslashed _ (List.mem_append_right _ List.mem_cons_self) (List.mem_append_right _ List.mem_cons_self)

theorem isSlashed_of_write_eq {path after : UrlPath} (written : after.write = path.write ++ ['/']) :
    after.IsSlashed := by
  rw [IsSlashed, written]
  exact List.getLast?_concat

theorem folder_prefix_of_write_eq {path after : UrlPath} (written : after.write = path.write ++ ['/']) :
    path.folder <+: after.write := by
  rw [written, folder]
  split
  · exact List.prefix_append _ _
  · exact List.prefix_rfl

theorem isSlashed_concat_nil (list : List (List Char)) : (segments (list ++ [[]])).IsSlashed :=
  isSlashed_of_write_eq (write_segments_append list [[]])

theorem isSlashed_of_gainsSlash {before after : List (List Char)} (gains : Url.GainsSlash before after) :
    (segments after).IsSlashed := by
  rcases gains with rfl | ⟨rfl, front, rfl⟩ <;> exact isSlashed_concat_nil _

theorem folder_prefix_of_gainsSlash {before after : List (List Char)} (gains : Url.GainsSlash before after) :
    (segments before).folder <+: (segments after).write := by
  rcases gains with rfl | ⟨rfl, front, rfl⟩
  · exact folder_prefix_of_write_eq (write_segments_append before [[]])
  · exact folder_prefix_write_iff.mpr (isSlashed_concat_nil _)

/-- What is behind a directory has the written directory in front. -/
theorem folder_prefix_behind (front : List (List Char)) {more : List (List Char)} (something : more ≠ []) :
    (segments (front ++ [[]])).write <+: (segments (front ++ more)).write := by
  rw [write_segments_append, write_segments_append, List.prefix_append_right_inj]
  obtain ⟨segment, rest, rfl⟩ := List.exists_cons_of_ne_nil something
  exact ⟨segment ++ rest.flatMap ('/' :: ·), rfl⟩

end UrlPath

end Depot
