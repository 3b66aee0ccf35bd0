import Depot.Http.Api
import Depot.Proofs.Url.Slash

/-!
# What stays under the root of the API

The token of the session goes with every path, so no path should lead out of the API.  Two things can go wrong.

* The API url may lose its last segment: the slash that is put behind it belongs to its query or its fragment if it
  has one (`KeepsDirectory`).
* The path may lead up, to another host or to another scheme (`LeadsDown`).

If neither happens, what is asked for is at the same place as the API url, and its path begins with the path of
the API url.  And the first one is exactly what an API url has to offer (`paths_stay_under_root`).
-/

namespace Depot.Api

/-! ### From a target to a request -/

section Requests

variable {u root : Url}

theorem withoutLogin_isUnder (under : u.IsUnder root) : u.withoutLogin.IsUnder root := by
  unfold Url.withoutLogin
  split
  · exact under
  · next a named =>
    dsimp only
    split
    · refine ⟨under.scheme, ?_, ?_, under.path⟩
      · rw [← under.host, named]
        rfl
      · rw [← under.port, named]
        rfl
    · exact under

theorem addQuery_isUnder (under : u.IsUnder root) (pairs : List (String × String)) :
    (u.addQuery pairs).IsUnder root := by
  unfold Url.addQuery
  split
  · exact under
  · split <;> exact ⟨under.scheme, under.host, under.port, under.path⟩

/-- What is asked for is the address of the target, with the query of the request and without a login. -/
theorem address_of_prepare {api : Api} {token : Option String} {r : Request} {address : Url}
    (prepared : api.prepare token r = .ok address) :
    ∃ u, api.resolve r.target = .ok u ∧ address = u.withoutLogin.addQuery r.query := by
  unfold prepare at prepared
  cases resolved : api.resolve r.target with
  | error e =>
    rw [resolved] at prepared
    cases prepared
  | ok u =>
    -- behind each of the three refusals the address is the same
    refine ⟨u, rfl, ?_⟩
    rw [resolved] at prepared
    change (if _ then _ else if _ then _ else if _ then _ else _) = _ at prepared
    split at prepared
    · cases prepared
    · split at prepared
      · cases prepared
      · split at prepared
        · cases prepared
        · exact (Except.ok.inj prepared).symm

end Requests

/-! ### Paths -/

/-- The reference that is resolved for a path. -/
def reference (path : String) : List Char := Url.clean (path.toList.dropWhile (· = '/'))

theorem resolve_path_eq_ok_iff {api : Api} {path : String} {u : Url} :
    api.resolve (.path path) = .ok u ↔ Url.readFrom (some api.root) (reference path) = .ok u := by
  have same : api.root.join (String.ofList (path.toList.dropWhile (· = '/'))) =
      Url.readFrom (some api.root) (reference path) := by
    rw [Url.join, String.toList_ofList, reference]
  unfold resolve
  dsimp only
  rw [same]
  cases Url.readFrom (some api.root) (reference path) <;> simp

/-- The path leads nowhere but down. -/
def LeadsDown (kind : SchemeKind) (path : String) : Prop := Url.Descends kind (reference path)

instance (kind : SchemeKind) (path : String) : Decidable (LeadsDown kind path) :=
  inferInstanceAs (Decidable (Url.Descends kind (reference path)))

section Resolve

variable {api : Api} {path : String} (tidy : api.root.IsTidy) (slashed : api.root.path.IsSlashed)
  (down : LeadsDown api.root.kind path)

include tidy slashed down

theorem resolve_isUnder_root {u : Url} (resolved : api.resolve (.path path) = .ok u) : u.IsUnder api.root := by
  rw [resolve_path_eq_ok_iff, Url.readFrom_eq_resolve down.noScheme] at resolved
  split at resolved
  · next deep =>
    obtain ⟨v, found, under⟩ := Url.resolve_isUnder tidy slashed down deep
    obtain rfl := Except.ok.inj (found.symm.trans resolved)
    exact under
  · cases resolved

theorem exists_resolve (deep : api.root.isFlat = false) : ∃ u, api.resolve (.path path) = .ok u := by
  obtain ⟨u, found, -⟩ := Url.resolve_isUnder tidy slashed down (.inl deep)
  refine ⟨u, resolve_path_eq_ok_iff.mpr ?_⟩
  rwa [Url.readFrom_eq_resolve down.noScheme, if_pos (.inl deep)]

end Resolve

theorem reference_hash : reference "#" = ['#'] := by decide +kernel

/-- A reference to the root itself. -/
theorem leadsDown_hash (kind : SchemeKind) : LeadsDown kind "#" := by
  rw [LeadsDown, reference_hash]
  exact ⟨rfl, rfl, fun _ => rfl, rfl⟩

theorem resolve_hash (api : Api) : api.resolve (.path "#") = .ok { api.root with fragment := some [] } := by
  rw [resolve_path_eq_ok_iff, reference_hash, Url.readFrom_eq_resolve rfl, if_pos (.inr rfl)]
  rfl

/-! ### Roots -/

theorem readRoot_eq_ok {text : String} {root : Url} (read : readRoot text = .ok root) :
    Url.read (if text.toList.getLast? = some '/' then text else text ++ "/") = .ok root := by
  unfold readRoot at read
  dsimp only at read
  split at read
  · next found => rw [found, Except.ok.inj read]
  · cases read

theorem new_eq_ok {apiUrl : String} {root : Url} (read : readRoot apiUrl = .ok root) :
    Api.new apiUrl none = .ok ⟨root, defaultUserAgent⟩ := by
  have sendable : isHeaderValue (resolveUserAgent none) = true := by decide +kernel
  rw [Api.new, read]
  exact if_pos sendable

theorem root_of_new {apiUrl : String} {agent : Option String} {api : Api} (made : Api.new apiUrl agent = .ok api) :
    Url.read (if apiUrl.toList.getLast? = some '/' then apiUrl else apiUrl ++ "/") = .ok api.root := by
  unfold Api.new at made
  dsimp only at made
  split at made
  · obtain ⟨root, read, rfl⟩ := exists_of_map_eq_ok made
    exact readRoot_eq_ok read
  · cases made

/-- The path of the API url ends with a slash, or it gets one: the slash that is put behind the API url is one
of its path. -/
def KeepsDirectory (apiUrl : String) (place : Url) : Prop :=
  place.path.IsSlashed ∨ apiUrl.toList.getLast? ≠ some '/' ∧ place.query = none ∧ place.fragment = none

section Root

variable {apiUrl : String} {agent : Option String} {api : Api} {place : Url}
  (made : Api.new apiUrl agent = .ok api) (read : Url.read apiUrl = .ok place)
  (tight : apiUrl.toList.getLast?.any Url.isMargin = false)

include made read tight

/-- The root is the API url itself, or it is the API url with a slash behind it. -/
theorem root_eq_or_slashBehind :
    api.root = place ∧ apiUrl.toList.getLast? = some '/' ∨
      Url.SlashBehind place api.root ∧ apiUrl.toList.getLast? ≠ some '/' := by
  have root := root_of_new made
  split at root
  · next slash => exact .inl ⟨(Except.ok.inj (read.symm.trans root)).symm, slash⟩
  · next bare => exact .inr ⟨Url.read_slash tight bare read root, bare⟩

theorem root_isSlashed (keeps : KeepsDirectory apiUrl place) : api.root.path.IsSlashed := by
  rcases root_eq_or_slashBehind made read tight with ⟨same, slash⟩ | ⟨behind, -⟩
  · exact same ▸ keeps.resolve_right fun h => h.1 slash
  · exact behind.isSlashed (keeps.imp_right And.right)

theorem root_isUnder_iff : api.root.IsUnder place ↔ KeepsDirectory apiUrl place := by
  rcases root_eq_or_slashBehind made read tight with ⟨same, slash⟩ | ⟨behind, bare⟩
  · rw [same, Url.isUnder_self_iff, KeepsDirectory, or_iff_left fun h => h.1 slash]
  · rw [behind.isUnder_iff, KeepsDirectory, and_iff_right bare]

end Root

/-! ### Paths under the API url -/

/-- **Paths that lead down stay under the API url**, exactly if the API url keeps its last segment.  Then each of
them leads somewhere (unless the scheme of the API url knows no hierarchy), and all requests for it go there. -/
theorem paths_stay_under_root {apiUrl : String} {agent : Option String} {api : Api} {place : Url}
    (made : Api.new apiUrl agent = .ok api) (read : Url.read apiUrl = .ok place)
    (tight : apiUrl.toList.getLast?.any Url.isMargin = false) :
    ((∀ path u, LeadsDown place.kind path → api.resolve (.path path) = .ok u → u.IsUnder place) ↔
        KeepsDirectory apiUrl place) ∧
      (KeepsDirectory apiUrl place → ∀ path, LeadsDown place.kind path →
        (api.root.isFlat = false → ∃ u, api.resolve (.path path) = .ok u) ∧
        ∀ token r address, r.target = .path path → api.prepare token r = .ok address → address.IsUnder place) := by
  have tidy := Url.read_isTidy (root_of_new made)
  have kind : api.root.kind = place.kind := by
    rcases root_eq_or_slashBehind made read tight with ⟨same, -⟩ | ⟨behind, -⟩
    · rw [same]
    · rw [Url.kind, behind.scheme, Url.kind]
  have stay (keeps : KeepsDirectory apiUrl place) {path : String} {u : Url} (down : LeadsDown place.kind path)
      (resolved : api.resolve (.path path) = .ok u) : u.IsUnder place :=
    (resolve_isUnder_root tidy (root_isSlashed made read tight keeps) (kind ▸ down) resolved).trans
      ((root_isUnder_iff made read tight).mpr keeps)
  refine ⟨⟨?kept, fun keeps path u => stay keeps⟩, fun keeps path down => ⟨?found, ?asked⟩⟩
  case kept =>
    intro all
    -- the root itself is where an empty fragment leads
    have under := all "#" _ (leadsDown_hash place.kind) (resolve_hash api)
    exact (root_isUnder_iff made read tight).mp ⟨under.scheme, under.host, under.port, under.path⟩
  case found => exact exists_resolve tidy (root_isSlashed made read tight keeps) (kind ▸ down)
  case asked =>
    intro token r address isPath prepared
    obtain ⟨u, resolved, rfl⟩ := address_of_prepare prepared
    exact addQuery_isUnder (withoutLogin_isUnder (stay keeps down (isPath ▸ resolved))) r.query

/-- At an ordinary API url, a path full of dots. -/
theorem paths_stay_under_root_dots : ∃ api place u, Api.new "https://data.example.org/api/v1" none = .ok api ∧
    Url.read "https://data.example.org/api/v1" = .ok place ∧
    api.resolve (.path "/item/.%2e/./folder\\..//x?up=/../../../#/..") = .ok u ∧ u.IsUnder place := by
  have read : Url.read "https://data.example.org/api/v1" = .ok ⟨"https".toList,
      some (.ofHost (.name "data.example.org".toList)), .segments ["api".toList, "v1".toList], none, none⟩ := by
    decide +kernel
  have root : readRoot "https://data.example.org/api/v1" = .ok ⟨"https".toList,
      some (.ofHost (.name "data.example.org".toList)), .segments ["api".toList, "v1".toList, []], none, none⟩ := by
    decide +kernel
  have down : LeadsDown .web "/item/.%2e/./folder\\..//x?up=/../../../#/.." := by decide +kernel
  obtain ⟨stays, all⟩ := paths_stay_under_root (new_eq_ok root) read (by decide +kernel)
  -- the API url has no slash at its end, no query and no fragment
  have stay := stays.mpr (.inr ⟨by decide +kernel, rfl, rfl⟩)
  obtain ⟨found, -⟩ := all (.inr ⟨by decide +kernel, rfl, rfl⟩) _ down
  obtain ⟨u, resolved⟩ := found rfl
  exact ⟨_, _, u, new_eq_ok root, read, resolved, stay _ u down resolved⟩

/-- The ways out: up, to the root of the host, to another host, to another scheme. -/
example : ∀ path ∈ ["item/../../x", "/%2e./x", "\\x", " //other.example/x", "ftp:x"], ¬ LeadsDown .web path := by
  decide +kernel

/-- An API url with a query loses its last segment: the slash is put behind the query. -/
theorem leaves_api_with_query : ¬ ∀ apiUrl agent api place path u, Api.new apiUrl agent = .ok api →
    Url.read apiUrl = .ok place → api.resolve (.path path) = .ok u → u.IsUnder place := by
  intro stays
  have root : readRoot "http://127.0.0.1:1/api/v1?key=1" = .ok ⟨"http".toList,
      some ⟨[], [], .ipv4 2130706433, some 1⟩, .segments ["api".toList, "v1".toList], some "key=1/".toList, none⟩ := by
    decide +kernel
  have read : Url.read "http://127.0.0.1:1/api/v1?key=1" = .ok ⟨"http".toList,
      some ⟨[], [], .ipv4 2130706433, some 1⟩, .segments ["api".toList, "v1".toList], some "key=1".toList, none⟩ := by
    decide +kernel
  have under := stays _ none _ _ "item" ⟨"http".toList, some ⟨[], [], .ipv4 2130706433, some 1⟩,
    .segments ["api".toList, "item".toList], none, none⟩ (new_eq_ok root) read (by decide +kernel)
  exact absurd under.path (by decide +kernel)

end Depot.Api
