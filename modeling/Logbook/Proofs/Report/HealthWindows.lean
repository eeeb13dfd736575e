import Logbook.Proofs.Response.Availability
import Logbook.Proofs.Response.Outcome
import Logbook.Report.Basic

/-!
# The windows of endpoints

A health search groups by endpoint (`terms`), each endpoint by window of time (`ranges`), and
measures each window (`results`). What stands inside a group is kept as it came, so at each of the
three levels there may be nothing, or something of another shape.

* `Group.MembersAre`, `Group.HasNumber`: what a group holds under a name.
* `EndpointValues.Covers`: the values of an endpoint, one for each of its windows in their order.
* `IsWindowAvailability`, `IsWindowTime`: the value of a window, from its own results.
* `Group.IsBeyondWord`: the results of a window count too much to be added up.
* `health_windows_kept`: both reports cover the endpoints of a response in their order, and the one
  of times leaves out those without any. There is no report of availabilities where a window is
  beyond a word.
-/

set_option autoImplicit false

namespace Logbook

/-! ## What stands inside a group -/

namespace Group

/-- A group has a list of groups under a name. -/
def HasMembers (group : Group) (name : String) (members : List Group) : Prop :=
  ∃ value, group.inner.find? name = some value ∧ value.HoldsGroups members

/-- The groups under a name are those of the list there, or none where there is no such list. -/
def MembersAre (group : Group) (name : String) (members : List Group) : Prop :=
  group.HasMembers name members ∨ members = [] ∧ ∀ members', ¬group.HasMembers name members'

/-- The groups that are found under a name. -/
def members (group : Group) (name : String) : List Group :=
  ((group.outcome? name).map Outcome.groupList).getD []

/-- A group has a finite number under a name. -/
def HasNumber (group : Group) (name : String) (x : Finite64) : Prop :=
  ∃ value, group.inner.find? name = some value ∧
    (∀ members, ¬value.HoldsGroups members) ∧ value.HoldsNumber (.finite x)

theorem isObject_of_holdsGroups {value : Json} {members : List Group}
    (h : value.HoldsGroups members) : value.isObject = true := by
  obtain ⟨fields, items, rfl, -⟩ := h
  rfl

theorem isObject_of_holdsNumber {value : Json} {x : Binary64} (h : value.HoldsNumber x) :
    value.isObject = true := by
  obtain ⟨fields, json, rfl, -⟩ := h
  rfl

theorem membersAre_members (group : Group) (name : String) :
    group.MembersAre name (group.members name) := by
  unfold MembersAre HasMembers members outcome?
  cases hvalue : group.inner.find? name with
  | none => exact .inr ⟨rfl, fun members h => by obtain ⟨value, ⟨⟩, -⟩ := h⟩
  | some value =>
    simp only [Option.bind_some, Option.some.injEq, exists_eq_left']
    by_cases hobject : value.isObject
    · rw [if_pos hobject]
      exact Outcome.groupList_ofJson value
    · rw [if_neg hobject]
      exact .inr ⟨rfl, fun members h => hobject (isObject_of_holdsGroups h)⟩

/-- There is one list of groups under a name, or none. -/
theorem membersAre_iff {group : Group} {name : String} {members : List Group} :
    group.MembersAre name members ↔ members = group.members name := by
  constructor
  · intro h
    obtain hmembers | ⟨rfl, hnone⟩ := h
    · obtain ⟨value, hvalue, hgroups⟩ := hmembers
      rw [Group.members, outcome?, hvalue, Option.bind_some,
        if_pos (isObject_of_holdsGroups hgroups), Outcome.ofJson_of_holdsGroups hgroups]
      rfl
    · obtain hmembers | ⟨hnil, -⟩ := group.membersAre_members name
      · exact absurd hmembers (hnone _)
      · exact hnil.symm
  · rintro rfl
    exact group.membersAre_members name

theorem value?_outcome?_eq_some_iff {group : Group} {name : String} {x : Binary64} :
    (group.outcome? name).bind Outcome.value? = some x ↔
      ∃ y, x = .finite y ∧ group.HasNumber name y := by
  unfold HasNumber outcome?
  cases hvalue : group.inner.find? name with
  | none => exact ⟨nofun, fun ⟨_, _, _, h, _⟩ => nomatch h⟩
  | some value =>
    simp only [Option.bind_some, Option.some.injEq, exists_eq_left']
    have hsome : (if value.isObject then some (Outcome.ofJson value) else none).bind
        Outcome.value? = some x ↔
          (∀ members, ¬value.HoldsGroups members) ∧ value.HoldsNumber x ∧ x.isFinite := by
      by_cases hobject : value.isObject
      · rw [if_pos hobject, Option.bind_some, Outcome.value?_ofJson_eq_some_iff]
      · rw [if_neg hobject]
        exact ⟨nofun, fun h => absurd (isObject_of_holdsNumber h.2.1) hobject⟩
    rw [hsome]
    constructor
    · rintro ⟨hgroups, hnumber, hfinite⟩
      cases x with
      | finite y => exact ⟨y, rfl, hgroups, hnumber⟩
      | nan | infinite negative => cases hfinite
    · rintro ⟨y, rfl, hgroups, hnumber⟩
      exact ⟨hgroups, hnumber, rfl⟩

end Group

/-- The groups of an outcome of a response, or none where it has no such outcome. -/
def Response.MembersAre (response : Response) (name : String) (members : List Group) : Prop :=
  response.outcome? name = some (.groups members) ∨
    members = [] ∧ ∀ members', response.outcome? name ≠ some (.groups members')

/-! ## Values of windows -/

/-- The values of an endpoint: one for each of its windows in their order, under the window's key
and with its start. -/
structure EndpointValues.Covers {α : Type} (Valued : Group → α → Prop) (endpoint : Group)
    (values : EndpointValues α) : Prop where
  key : values.key = endpoint.keyText
  windows : ∃ windows, endpoint.MembersAre "ranges" windows ∧
    List.Forall₂ (fun window entry => entry.key = window.keyText ∧
      entry.start = (window.low.map Binary64.toInt64).getD 0 ∧ Valued window entry.value)
      windows values.values

/-- The results of a window count more than a word holds. -/
def Group.IsBeyondWord (window : Group) : Prop :=
  ∃ results, window.MembersAre "results" results ∧
    2 ^ 64 ≤ successes results + failures results

/-- The availability of a window is the share of successes in its own results, which fit a word. It
is all where there are none. -/
def IsWindowAvailability (window : Group) (x : Binary64) : Prop :=
  ∃ results, window.MembersAre "results" results ∧ (results = [] → x = Binary64.ofNat 100) ∧
    successes results + failures results < 2 ^ 64 ∧
      x = share (successes results) (failures results) ∧
        IsShare (successes results) (failures results) x

/-- The time of a window is the number of its own results, rounded to a word, and zero where there
is none. -/
def IsWindowTime (window : Group) (time : Int64) : Prop :=
  (∃ x n, window.HasNumber "results" x ∧ IsRoundedHalfAway x.value n ∧
    time.toInt = max (-2 ^ 63) (min n (2 ^ 63 - 1))) ∨
      (∀ x, ¬window.HasNumber "results" x) ∧ time = 0

theorem windowAvailability_eq_members (window : Group) :
    windowAvailability window = availabilityOf (window.members "results") := rfl

theorem isWindowAvailability {window : Group} {x : Binary64}
    (h : windowAvailability window = .ok x) : IsWindowAvailability window x := by
  rw [windowAvailability_eq_members] at h
  obtain ⟨hfits, hshare⟩ := availabilityOf_eq_ok_iff.1 h
  have hclose := isShare_share hfits
  rw [← hshare] at hclose
  refine ⟨_, window.membersAre_members "results", fun hnil => hclose.full ?_, hfits, hshare, hclose⟩
  rw [hnil]
  rfl

/-- There is no availability where the results of a window count more than a word holds. -/
theorem windowAvailability_eq_error_iff (window : Group) (overflow : Overflow) :
    windowAvailability window = .error overflow ↔ window.IsBeyondWord ∧ overflow = .sum := by
  simp only [windowAvailability_eq_members, availabilityOf_eq_error_iff, Group.IsBeyondWord,
    Group.membersAre_iff, exists_eq_left]

theorem isWindowTime (window : Group) : IsWindowTime window (windowTime window) := by
  rw [windowTime, healthResultsName]
  cases hvalue : (window.outcome? "results").bind Outcome.value? with
  | none =>
    refine .inr ⟨fun x hx => ?_, rfl⟩
    rw [Group.value?_outcome?_eq_some_iff.2 ⟨x, rfl, hx⟩] at hvalue
    cases hvalue
  | some value =>
    obtain ⟨x, rfl, hx⟩ := Group.value?_outcome?_eq_some_iff.1 hvalue
    obtain ⟨n, hn, htime⟩ := Binary64.toInt_roundToInt64 x
    exact .inl ⟨x, n, hx, hn, htime⟩

/-! ## Reports -/

namespace EndpointValues

theorem covers_ofGroup {α : Type} {value : Group → α} {Valued : Group → α → Prop}
    (hvalue : ∀ window, Valued window (value window)) (endpoint : Group) :
    Covers Valued endpoint (ofGroup value endpoint) where
  key := rfl
  windows := by
    refine ⟨_, endpoint.membersAre_members "ranges", ?_⟩
    rw [ofGroup, healthWindowsName, List.forall₂_map_right_iff, Group.members, List.forall₂_same]
    exact fun window _ => ⟨rfl, rfl, hvalue window⟩

section
variable {ε α : Type} {value : Group → Except ε α}

/-- Where all windows of an endpoint have a value, these are its values. -/
theorem covers_checked {Valued : Group → α → Prop}
    (hvalue : ∀ {window x}, value window = .ok x → Valued window x) {endpoint : Group}
    {values : EndpointValues α} (h : (ofGroup value endpoint).checked = .ok values) :
    Covers Valued endpoint values := by
  obtain ⟨entries, hentries, hvalues⟩ := Fallible.bind_eq_ok_iff.1 h
  cases hvalues
  refine ⟨rfl, _, endpoint.membersAre_members "ranges", ?_⟩
  have hwindows := Fallible.mapM_eq_ok_iff.1 hentries
  rw [ofGroup, List.forall₂_map_left_iff] at hwindows
  refine hwindows.imp fun window entry hentry => ?_
  obtain ⟨x, hx, hwindow⟩ := Fallible.bind_eq_ok_iff.1 hentry
  cases hwindow
  exact ⟨rfl, rfl, hvalue hx⟩

/-- An endpoint has no values where one of its windows has none. -/
theorem checked_eq_error_iff {p : Group → Prop} {e : ε}
    (h : ∀ window d, value window = .error d ↔ p window ∧ d = e) (endpoint : Group) (d : ε) :
    (ofGroup value endpoint).checked = .error d ↔
      (∃ window ∈ endpoint.members "ranges", p window) ∧ d = e := by
  have hwindow (window : Group) (d : ε) :
      WindowValue.checked ⟨window.keyText, (window.low.map Binary64.toInt64).getD 0, value window⟩ =
        .error d ↔ p window ∧ d = e :=
    Fallible.bind_ok_eq_error_iff.trans (h window d)
  refine Fallible.bind_ok_eq_error_iff.trans ?_
  rw [ofGroup, List.mapM_map]
  exact Fallible.mapM_eq_error_iff_exists hwindow

end

end EndpointValues

theorem Response.exists_membersAre (response : Response) (name : String) :
    ∃ members, response.MembersAre name members := by
  by_cases hgroups : ∃ members, response.outcome? name = some (.groups members)
  · obtain ⟨members, hmembers⟩ := hgroups
    exact ⟨members, .inl hmembers⟩
  · exact ⟨[], .inr ⟨rfl, not_exists.1 hgroups⟩⟩

theorem Response.MembersAre.eq {response : Response} {name : String} {members members' : List Group}
    (h : response.MembersAre name members) (h' : response.MembersAre name members') :
    members = members' := by
  obtain hgroups | ⟨rfl, hnone⟩ := h
  · obtain hgroups' | ⟨-, hnone'⟩ := h'
    · exact Outcome.groups.inj (Option.some.inj (hgroups.symm.trans hgroups'))
    · exact absurd hgroups (hnone' members)
  · obtain hgroups' | ⟨rfl, -⟩ := h'
    · exact absurd hgroups' (hnone members')
    · rfl

theorem EndpointValues.ofResponse_eq_map {α : Type} (value : Group → α) {response : Response}
    {endpoints : List Group} (h : response.MembersAre "terms" endpoints) :
    ofResponse value response = endpoints.map (ofGroup value) := by
  rw [ofResponse, healthGroupsName]
  obtain hgroups | ⟨rfl, hnone⟩ := h
  · rw [hgroups]
    rfl
  · cases houtcome : response.outcome? "terms" with
    | none => rfl
    | some outcome =>
      cases outcome with
      | groups members => exact absurd houtcome (hnone members)
      | number | other => rfl

/-- Where there is a report of availabilities, each endpoint is covered, in the order of the
response. -/
theorem covers_availabilities {response : Response} {endpoints : List Group}
    (h : response.MembersAre "terms" endpoints) {reports : List (EndpointValues Binary64)}
    (hreports : availabilities response = .ok reports) :
    List.Forall₂ (EndpointValues.Covers IsWindowAvailability) endpoints reports := by
  rw [availabilities, EndpointValues.ofResponse_eq_map _ h, Fallible.mapM_eq_ok_iff,
    List.forall₂_map_left_iff] at hreports
  exact hreports.imp fun endpoint values => EndpointValues.covers_checked isWindowAvailability

theorem availabilities_eq_error_iff {response : Response} {endpoints : List Group}
    (h : response.MembersAre "terms" endpoints) {overflow : Overflow} :
    availabilities response = .error overflow ↔
      (∃ endpoint ∈ endpoints, ∃ window ∈ endpoint.members "ranges", window.IsBeyondWord) ∧
        overflow = .sum := by
  rw [availabilities, EndpointValues.ofResponse_eq_map _ h, List.mapM_map]
  exact Fallible.mapM_eq_error_iff_exists
    (EndpointValues.checked_eq_error_iff windowAvailability_eq_error_iff)

/-- Each endpoint is covered by its times, in the order of the response. -/
theorem covers_times {response : Response} {endpoints : List Group}
    (h : response.MembersAre "terms" endpoints) :
    List.Forall₂ (EndpointValues.Covers IsWindowTime) endpoints
      (EndpointValues.ofResponse windowTime response) := by
  rw [EndpointValues.ofResponse_eq_map _ h, List.forall₂_map_right_iff, List.forall₂_same]
  exact fun endpoint _ => EndpointValues.covers_ofGroup isWindowTime endpoint

/-- **No window is lost, repeated or moved.** Both reports on windows cover the endpoints of a
response in their order, each window with its own value; the report of times then leaves out the
endpoints without a time that is not zero. There is no report of availabilities just where the
results of a window count more than a word holds. -/
theorem health_windows_kept (response : Response) :
    ∃ endpoints, response.MembersAre "terms" endpoints ∧
      (∀ reports, availabilities response = .ok reports →
        List.Forall₂ (EndpointValues.Covers IsWindowAvailability) endpoints reports) ∧
      (∀ overflow, availabilities response = .error overflow ↔
        (∃ endpoint ∈ endpoints, ∃ windows, endpoint.MembersAre "ranges" windows ∧
          ∃ window ∈ windows, window.IsBeyondWord) ∧ overflow = .sum) ∧
      ∃ times, List.Forall₂ (EndpointValues.Covers IsWindowTime) endpoints times ∧
        averageTimes response =
          times.filter fun endpoint => endpoint.values.any fun window => window.value != 0 := by
  obtain ⟨endpoints, hendpoints⟩ := response.exists_membersAre "terms"
  refine ⟨endpoints, hendpoints, fun reports => covers_availabilities hendpoints,
    fun overflow => ?_, _, covers_times hendpoints, rfl⟩
  simp only [Group.membersAre_iff, exists_eq_left]
  exact availabilities_eq_error_iff hendpoints

/-- A response with one endpoint that has one window. -/
def Response.ofWindow (window : Json) : Response :=
  { ofTotal 0 with
    outcomes := some (Keyed.ofList [("terms", Outcome.ofJson (.object [("buckets",
      .array [.object [("ranges", .object [("buckets", .array [window])])]])]))]) }

/-- A window whose results count half a word of successes and as many failures. -/
def halvedWindow : Json := .object [("results", halvedCounts)]

/-- There is no report of a window in which half of the documents failed, and which together count
one more than a word holds. -/
theorem no_availabilities_of_halved_window :
    (((Response.ofWindow halvedWindow).outcome? "terms").elim [] Outcome.groupList).map
        (fun endpoint => (endpoint.members "ranges").map fun window =>
          share (successes (window.members "results")) (failures (window.members "results"))) =
        [[Binary64.ofNat 50]] ∧
      availabilities (.ofWindow halvedWindow) = .error .sum := by
  refine ⟨by decide +kernel, Fallible.fault?_eq_some_iff.1 ?_⟩
  decide +kernel

end Logbook
