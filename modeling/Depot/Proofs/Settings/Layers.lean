import Depot.Cli.Arguments
import Depot.Proofs.Text.Blank
import Depot.Proofs.Text.Number
import Depot.Settings.Source

/-!
# The highest layer that sets something decides

The settings of a run are the built-in ones with three layers over them: the configuration file, the
environment, the command line.  Each of the six settings is decided on its own (`Decides`): by the highest
place that sets it to something usable, and by the built-in settings if there is none
(`highest_place_decides`).

What the environment sets is said in terms of the variables alone: a text if it is not blank (`IsVariable`),
and a number if one is written there, with nothing but white space around it, that fits into 64 bits
(`IsNumber`).  A chunk size of zero is not usable, so the place below is asked, and the chunk size of a run is
never zero.
-/

namespace Depot.Settings

/-! ### Places, the highest one first -/

/-- What is set is decided by the first place that sets it, and is the last resort if none does.  A place is
given by the values that it sets. -/
inductive Decides {α : Type} (lastResort : α) : List (α → Prop) → α → Prop where
  | nowhere : Decides lastResort [] lastResort
  | here {sets : α → Prop} {lower : List (α → Prop)} {value : α} (usable : sets value) :
      Decides lastResort (sets :: lower) value
  | passed {sets : α → Prop} {lower : List (α → Prop)} {value : α} (unset : ∀ other, ¬ sets other)
      (decided : Decides lastResort lower value) : Decides lastResort (sets :: lower) value

/-- What all places and the last resort have in common, the decided value has. -/
theorem Decides.holds {α : Type} {good : α → Prop} {lastResort value : α} {places : List (α → Prop)}
    (resort : good lastResort) (every : ∀ sets ∈ places, ∀ value, sets value → good value)
    (decided : Decides lastResort places value) : good value := by
  induction decided with
  | nowhere => exact resort
  | here usable => exact every _ List.mem_cons_self _ usable
  | passed _ _ ih => exact ih fun sets lower => every sets (List.mem_cons_of_mem _ lower)

section Over

variable {α : Type} {given : Option α} {sets : α → Prop}

/-- A layer goes over what is decided below it. -/
theorem Decides.over {lastResort lower : α} {places : List (α → Prop)}
    (same : ∀ value, given = some value ↔ sets value)
    (decided : Decides lastResort places lower) : Decides lastResort (sets :: places) (given.getD lower) := by
  rcases given with - | value
  · exact .passed (fun other usable => nomatch (same other).mpr usable) decided
  · exact .here ((same value).mp rfl)

/-- The place sets what need not be set at all. -/
def Present (sets : α → Prop) (value? : Option α) : Prop := ∃ value, value? = some value ∧ sets value

theorem Decides.overPresent {lastResort lower : Option α} {places : List (Option α → Prop)}
    (same : ∀ value, given = some value ↔ sets value) (decided : Decides lastResort places lower) :
    Decides lastResort (Present sets :: places) (given.or lower) := by
  rcases given with - | value
  · refine .passed ?_ decided
    rintro _ ⟨value, -, usable⟩
    exact nomatch (same value).mpr usable
  · exact .here ⟨value, rfl, (same value).mp rfl⟩

end Over

/-! ### Variables -/

/-- The variable with this name has the value, which is not blank. -/
def IsVariable (lookup : String → Option String) (name value : String) : Prop :=
  lookup s!"GIRDER_{name}" = some value ∧ ∃ c ∈ value.toList, isBlank c = false

/-- The variable with this name writes the number, which fits into 64 bits. -/
def IsNumber (lookup : String → Option String) (name : String) (n : Nat) : Prop :=
  n < limit64 ∧ ∃ value before text after, lookup s!"GIRDER_{name}" = some value ∧
    value.toList = before ++ text ++ after ∧ IsBlankText before ∧ IsBlankText after ∧ WritesNatural text n

namespace Layer

variable {lookup : String → Option String} {name : String}

theorem variableOf_eq_some_iff {value : String} :
    variableOf lookup name = some value ↔ IsVariable lookup name value := by
  have plain : (!(trimBlank value).isEmpty) = true ↔ ∃ c ∈ value.toList, isBlank c = false := by
    rw [Bool.not_eq_true', ← Bool.not_eq_true, isEmpty_trimBlank, IsBlankText]
    simp
  rw [variableOf, Option.filter_eq_some_iff, plain, IsVariable]

/-- Neither a digit nor a plus sign is white space. -/
theorem plain_of_writes {text : List Char} {n : Nat} (writes : WritesNatural text n) :
    ∀ c ∈ text, isBlank c = false := by
  have plain {digits : List Char} (writes : WritesDigits digits n) : ∀ c ∈ digits, isBlank c = false := by
    intro c hc
    have digit := writes.digit c hc
    simp only [Char.isDigit, Bool.and_eq_true, decide_eq_true_eq, ge_iff_le] at digit
    have lower : 48 ≤ c.toNat := digit.1
    have upper : c.toNat ≤ 57 := digit.2
    simp only [isBlank, inRuns, blankRuns, List.any_cons, List.any_nil, Bool.or_false, Bool.or_eq_false_iff,
      decide_eq_false_iff_not]
    omega
  rcases writes with writes | ⟨digits, rfl, writes⟩
  · exact plain writes
  · exact List.forall_mem_cons.mpr ⟨by decide, plain writes⟩

/-- A variable sets a number exactly if it writes one, white space apart. -/
theorem number?_eq_some_iff {n : Nat} : number? lookup name = some n ↔ IsNumber lookup name n := by
  have read (value : String) : (readNatural limit64 (trimBlank value)).toOption = some n ↔
      WritesNatural (trimBlank value).toList n ∧ n < limit64 := by
    rw [← readNatural_eq_ok_iff (by decide)]
    cases readNatural limit64 (trimBlank value) <;> simp [Except.toOption]
  rw [number?, Option.bind_eq_some_iff]
  constructor
  · rintro ⟨value, isVariable, isRead⟩
    obtain ⟨writes, fits⟩ := (read value).mp isRead
    obtain ⟨before, after, blankBefore, blankAfter, split⟩ := trimBlank_split value
    exact ⟨fits, value, before, _, after, (variableOf_eq_some_iff.mp isVariable).1, split, blankBefore,
      blankAfter, writes⟩
  · rintro ⟨fits, value, before, text, after, given, split, blankBefore, blankAfter, writes⟩
    have plain := plain_of_writes writes
    have trimmed : (trimBlank value).toList = text := trimBlank_eq blankBefore blankAfter plain split
    refine ⟨value, variableOf_eq_some_iff.mpr ⟨given, ?_⟩, (read value).mpr ⟨trimmed ▸ writes, fits⟩⟩
    -- what writes a number is not empty, so the variable is not blank
    obtain ⟨c, hc⟩ : ∃ c, c ∈ text := by
      rcases writes with ⟨given, -⟩ | ⟨_, rfl, -⟩
      · exact List.exists_mem_of_ne_nil text given
      · exact ⟨'+', List.mem_cons_self⟩
    exact ⟨c, by simp [split, hc], plain c hc⟩

/-- A chunk size counts only if there are bytes in the chunk. -/
theorem usableChunkSize_eq_some_iff {l : Layer} {n : Nat} {sets : Nat → Prop}
    (same : ∀ n, l.chunkSize = some n ↔ sets n) : l.usableChunkSize = some n ↔ sets n ∧ 0 < n := by
  rw [usableChunkSize, Option.filter_eq_some_iff, same, decide_eq_true_eq]

end Layer

/-! ### The settings of a run -/

/-- **Each setting is decided by the highest place that sets it**: the command line, the environment, the
configuration file, and at last the built-in settings. -/
theorem highest_place_decides (file : Layer) (lookup : String → Option String) (flags : Cli.Arguments) :
    let settings := ofLayers [file, .ofVariables lookup, flags.layer]
    Decides builtIn.apiUrl [(flags.apiUrl = some ·), IsVariable lookup "API_URL", (file.apiUrl = some ·)]
        settings.apiUrl ∧
      Decides builtIn.token
        [Present (flags.token = some ·), Present (IsVariable lookup "TOKEN"), Present (file.token = some ·)]
        settings.token ∧
      Decides builtIn.requestTimeout
        [(flags.timeout = some ·), IsNumber lookup "REQUEST_TIMEOUT", (file.requestTimeout = some ·)]
        settings.requestTimeout ∧
      Decides builtIn.userAgent [IsVariable lookup "USER_AGENT", (file.userAgent = some ·)] settings.userAgent ∧
      Decides builtIn.pageLimit [IsNumber lookup "PAGE_LIMIT", (file.pageLimit = some ·)] settings.pageLimit ∧
      Decides builtIn.chunkSize
        [fun n => IsNumber lookup "UPLOAD_CHUNK_SIZE" n ∧ 0 < n, fun n => file.chunkSize = some n ∧ 0 < n]
        settings.chunkSize ∧
      0 < settings.chunkSize := by
  intro settings
  have self {α : Type} (given : Option α) (value : α) : given = some value ↔ given = some value := Iff.rfl
  have text (name value : String) : Layer.variableOf lookup name = some value ↔ IsVariable lookup name value :=
    Layer.variableOf_eq_some_iff
  have number (name : String) (n : Nat) : Layer.number? lookup name = some n ↔ IsNumber lookup name n :=
    Layer.number?_eq_some_iff
  have chunks : Decides builtIn.chunkSize
      [fun n => IsNumber lookup "UPLOAD_CHUNK_SIZE" n ∧ 0 < n, fun n => file.chunkSize = some n ∧ 0 < n]
      settings.chunkSize :=
    .over (fun _ => Layer.usableChunkSize_eq_some_iff (l := .ofVariables lookup) (number _))
      (.over (fun _ => Layer.usableChunkSize_eq_some_iff (self _)) .nowhere)
  refine ⟨?apiUrl, ?token, ?requestTimeout, ?userAgent, ?pageLimit, chunks, ?positive⟩
  case apiUrl => exact .over (self _) (.over (text _) (.over (self _) .nowhere))
  case token => exact .overPresent (self _) (.overPresent (text _) (.overPresent (self _) .nowhere))
  case requestTimeout => exact .over (self _) (.over (number _) (.over (self _) .nowhere))
  case userAgent => exact .over (text _) (.over (self _) .nowhere)
  case pageLimit => exact .over (number _) (.over (self _) .nowhere)
  case positive =>
    refine chunks.holds ChunkSize.default.positive ?_
    simp only [List.forall_mem_cons, List.not_mem_nil, false_implies, implies_true, and_true]
    exact ⟨fun _ => And.right, fun _ => And.right⟩

end Depot.Settings
