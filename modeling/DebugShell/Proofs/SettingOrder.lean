import DebugShell.Proofs.Calls
import DebugShell.Proofs.Settings
import Mathlib.Data.List.Induction
import Mathlib.Data.List.Pairwise
import Mathlib.Data.List.Perm.Basic

/-!
# The order of settings does not matter

Settings are changed one after another, some requests are refused, and a change of the resolution
mode also changes the stored strategy. What is left at the end depends on little of this: for each
setting on the last value that was accepted for it, and on nothing else
(`settings_depend_on_last_accepted_values`).

A request asks for a change or is refused (`Change.requested`), whatever the dispatcher, and a
change puts one setting (`setConfig_eq`). So of two accepted requests for one setting the second
counts (`afterRequest_overwrite`), and requests for two settings can change places
(`afterRequest_comm`). By these two, a request moves through a sequence until a later one overwrites
(`afterSettings_of_overwritten`), and what cannot be overwritten can be put in any order.
-/

namespace DebugShell

variable {σ : Type}

/-! ## Requests -/

/-- The requests that count: those that are accepted, and after which none is accepted for the same
setting. -/
def lastAccepted : List SettingRequest → List SettingRequest
  | [] => []
  | r :: later =>
    if isAccepted r = true ∧ ∀ s ∈ later, isAccepted s = true → s.1 ≠ r.1 then
      r :: lastAccepted later
    else lastAccepted later

/-- The resolution mode that a request asks for, if it asks for one. -/
def requestedMode? (r : SettingRequest) : Option ResolutionMode :=
  if r.1 = "resolve-heap-via-heuristic" then (ResolutionMode.ofString r.2).toOption else none

/-- The resolution mode that was accepted last. -/
def lastMode? (requests : List SettingRequest) : Option ResolutionMode :=
  (requests.filterMap requestedMode?).getLast?

/-- The requests that count are among those that were made, and each was accepted. -/
theorem mem_lastAccepted {r : SettingRequest} {requests : List SettingRequest}
    (h : r ∈ lastAccepted requests) : r ∈ requests ∧ isAccepted r = true := by
  induction requests with
  | nil => cases h
  | cons head later ih =>
    rw [lastAccepted] at h
    split at h
    · rename_i hcounts
      rcases List.mem_cons.1 h with rfl | h
      · exact ⟨List.mem_cons_self, hcounts.1⟩
      · exact ⟨List.mem_cons_of_mem _ (ih h).1, (ih h).2⟩
    · exact ⟨List.mem_cons_of_mem _ (ih h).1, (ih h).2⟩

/-- No two of the requests that count are for one setting. -/
theorem lastAccepted_pairwise (requests : List SettingRequest) :
    (lastAccepted requests).Pairwise fun r s => r.1 ≠ s.1 := by
  induction requests with
  | nil => exact .nil
  | cons head later ih =>
    rw [lastAccepted]
    split
    · rename_i hcounts
      refine List.pairwise_cons.2 ⟨fun s hs => ?_, ih⟩
      obtain ⟨hmem, haccepted⟩ := mem_lastAccepted hs
      exact (hcounts.2 s hmem haccepted).symm
    · exact ih

namespace Dispatcher

/-! ## One request -/

/-- The strategy that a change stores: that of the mode, if it changes the mode. -/
def strategyFor? : Change → Option HeapStrategy
  | ⟨.resolutionMode, mode⟩ => some (.preferred mode)
  | _ => none

/-- The dispatcher after a change of a setting. -/
def afterChange (d : Dispatcher σ) (change : Change) : Dispatcher σ :=
  { d with
    config := d.config.put change.1 change.2
    strategy := (strategyFor? change).getD d.strategy }

/-- Changing a setting is making the change that is asked for. Whether there is one does not depend
on the dispatcher. -/
theorem setConfig_eq (d : Dispatcher σ) (name value : String) :
    d.setConfig name value = (Change.requested name value).map d.afterChange := by
  unfold setConfig
  rw [Config.set_eq]
  cases hchange : Change.requested name value with
  | error e => rfl
  | ok change =>
    have hnamed : Setting.named? name = some change.1 :=
      (Setting.named?_eq_some_iff name change.1).2 (Change.name_of_requested hchange)
    dsimp only [Except.map]
    rw [hnamed]
    obtain ⟨s, v⟩ := change
    cases s with
    | resolutionMode => rfl
    | _ => rfl

/-- The dispatcher after a request. -/
def afterRequest (d : Dispatcher σ) (r : SettingRequest) : Dispatcher σ :=
  d.afterCall (.setConfig r.1 r.2)

/-- The dispatcher after requests that were made one after another. -/
def afterSettings (d : Dispatcher σ) (requests : List SettingRequest) : Dispatcher σ :=
  requests.foldl afterRequest d

/-- A request that asks for a change makes it. -/
theorem afterRequest_of_requested (d : Dispatcher σ) {r : SettingRequest} {change : Change}
    (h : Change.requested r.1 r.2 = .ok change) : d.afterRequest r = d.afterChange change := by
  unfold afterRequest afterCall
  dsimp only
  rw [setConfig_eq, h]
  rfl

/-- A request that is not accepted leaves everything as it was. -/
theorem afterRequest_of_refused (d : Dispatcher σ) {r : SettingRequest}
    (h : isAccepted r = false) : d.afterRequest r = d := by
  unfold afterRequest afterCall
  dsimp only
  rw [setConfig_eq]
  cases hchange : Change.requested r.1 r.2 with
  | error e => rfl
  | ok change =>
    have haccepted := (isAccepted_iff r).2 ⟨change, hchange⟩
    rw [h] at haccepted
    cases haccepted

/-- Of two changes of one setting the second stays. -/
theorem afterChange_afterChange (d : Dispatcher σ) (s : Setting) (v w : s.Value) :
    (d.afterChange ⟨s, v⟩).afterChange ⟨s, w⟩ = d.afterChange ⟨s, w⟩ := by
  have hstrategy : (strategyFor? ⟨s, w⟩).getD ((strategyFor? ⟨s, v⟩).getD d.strategy) =
      (strategyFor? ⟨s, w⟩).getD d.strategy := by
    cases s with
    | _ => rfl
  unfold afterChange
  dsimp only
  rw [Config.put_put, hstrategy]

/-- A change of another setting than the mode stores no strategy. -/
theorem strategyFor?_of_ne {change : Change} (h : change.1 ≠ .resolutionMode) :
    strategyFor? change = none := by
  obtain ⟨s, v⟩ := change
  cases s with
  | resolutionMode => exact absurd rfl h
  | _ => rfl

/-- Changes of two settings can be made in either order. -/
theorem afterChange_comm (d : Dispatcher σ) {change change' : Change} (h : change.1 ≠ change'.1) :
    (d.afterChange change).afterChange change' = (d.afterChange change').afterChange change := by
  -- At most one of the two is a change of the mode.
  have hstrategy : (strategyFor? change').getD ((strategyFor? change).getD d.strategy) =
      (strategyFor? change).getD ((strategyFor? change').getD d.strategy) := by
    by_cases hmode : change.1 = .resolutionMode
    · have hother : change'.1 ≠ .resolutionMode := hmode ▸ h.symm
      rw [strategyFor?_of_ne hother]
      rfl
    · rw [strategyFor?_of_ne hmode]
      rfl
  unfold afterChange
  dsimp only
  rw [d.config.put_comm h, hstrategy]

/-- Of two requests for one setting the second counts, if it is accepted. -/
theorem afterRequest_overwrite (d : Dispatcher σ) {r s : SettingRequest} (hname : r.1 = s.1)
    (hs : isAccepted s = true) : (d.afterRequest r).afterRequest s = d.afterRequest s := by
  obtain ⟨⟨setting', w⟩, hw⟩ := (isAccepted_iff s).1 hs
  cases hr : isAccepted r with
  | false => rw [d.afterRequest_of_refused hr]
  | true =>
    obtain ⟨⟨setting, v⟩, hv⟩ := (isAccepted_iff r).1 hr
    have hsetting : setting = setting' := by
      rw [← Setting.name_inj]
      calc setting.name = r.1 := Change.name_of_requested hv
        _ = s.1 := hname
        _ = setting'.name := (Change.name_of_requested hw).symm
    subst hsetting
    rw [afterRequest_of_requested _ hv, afterRequest_of_requested _ hw,
      afterRequest_of_requested _ hw, afterChange_afterChange]

/-- Requests for two settings can be made in either order. -/
theorem afterRequest_comm (d : Dispatcher σ) {r s : SettingRequest} (hname : r.1 ≠ s.1) :
    (d.afterRequest r).afterRequest s = (d.afterRequest s).afterRequest r := by
  cases hr : isAccepted r with
  | false => rw [d.afterRequest_of_refused hr, afterRequest_of_refused _ hr]
  | true =>
    cases hs : isAccepted s with
    | false => rw [d.afterRequest_of_refused hs, afterRequest_of_refused _ hs]
    | true =>
      obtain ⟨change, hchange⟩ := (isAccepted_iff r).1 hr
      obtain ⟨change', hchange'⟩ := (isAccepted_iff s).1 hs
      have hne : change.1 ≠ change'.1 := by
        intro heq
        rw [← Setting.name_inj, Change.name_of_requested hchange,
          Change.name_of_requested hchange'] at heq
        exact hname heq
      rw [afterRequest_of_requested _ hchange, afterRequest_of_requested _ hchange',
        afterRequest_of_requested _ hchange', afterRequest_of_requested _ hchange,
        d.afterChange_comm hne]

/-! ## Sequences of requests -/

/-- A request that a later one overwrites makes no difference. -/
theorem afterSettings_of_overwritten (d : Dispatcher σ) {r : SettingRequest}
    {later : List SettingRequest} (h : ∃ s ∈ later, isAccepted s = true ∧ s.1 = r.1) :
    (d.afterRequest r).afterSettings later = d.afterSettings later := by
  induction later generalizing d with
  | nil =>
    obtain ⟨s, hs, -⟩ := h
    cases hs
  | cons head rest ih =>
    change ((d.afterRequest r).afterRequest head).afterSettings rest =
      (d.afterRequest head).afterSettings rest
    by_cases hname : r.1 = head.1
    · cases hhead : isAccepted head with
      | true => rw [d.afterRequest_overwrite hname hhead]
      | false =>
        -- The head is refused, so the request that overwrites comes after it.
        rw [afterRequest_of_refused _ hhead, afterRequest_of_refused _ hhead]
        obtain ⟨s, hs, haccepted, hsame⟩ := h
        rcases List.mem_cons.1 hs with rfl | hs
        · rw [hhead] at haccepted
          cases haccepted
        · exact ih d ⟨s, hs, haccepted, hsame⟩
    · -- The request moves past the head, towards the one that overwrites it.
      rw [d.afterRequest_comm hname]
      obtain ⟨s, hs, haccepted, hsame⟩ := h
      rcases List.mem_cons.1 hs with rfl | hs
      · exact absurd hsame.symm hname
      · exact ih (d.afterRequest head) ⟨s, hs, haccepted, hsame⟩

/-- The requests that count come to the same as all of them. -/
theorem afterSettings_lastAccepted (d : Dispatcher σ) (requests : List SettingRequest) :
    d.afterSettings (lastAccepted requests) = d.afterSettings requests := by
  induction requests generalizing d with
  | nil => rfl
  | cons r later ih =>
    rw [lastAccepted]
    change _ = (d.afterRequest r).afterSettings later
    split
    · exact ih (d.afterRequest r)
    · rename_i hnot
      rw [ih d]
      cases hr : isAccepted r with
      | false => rw [d.afterRequest_of_refused hr]
      | true =>
        refine (d.afterSettings_of_overwritten ?_).symm
        rw [not_and] at hnot
        have hlater := hnot hr
        push Not at hlater
        exact hlater

/-- Requests for settings of which no two are the same can be made in any order. -/
theorem afterSettings_perm (d : Dispatcher σ) {order requests : List SettingRequest}
    (horder : order.Perm requests) (h : requests.Pairwise fun r s => r.1 ≠ s.1) :
    d.afterSettings order = d.afterSettings requests := by
  refine horder.foldl_eq' (fun r hr s hs d' => ?_) d
  have hsymm : Std.Symm fun r s : SettingRequest => r.1 ≠ s.1 := ⟨fun _ _ hne => hne.symm⟩
  by_cases heq : r = s
  · rw [heq]
  · exact d'.afterRequest_comm
      (h.forall (horder.mem_iff.1 hr) (horder.mem_iff.1 hs) heq)

/-- The stored strategy after a request is that of the mode, if it asks for one, or the one that was
stored before. -/
theorem afterRequest_strategy (d : Dispatcher σ) (r : SettingRequest) :
    (d.afterRequest r).strategy =
      ((requestedMode? r).map HeapStrategy.preferred).getD d.strategy := by
  obtain ⟨name, value⟩ := r
  unfold requestedMode?
  dsimp only
  split
  · rename_i hname
    subst hname
    cases hread : ResolutionMode.ofString value with
    | ok mode =>
      have hchange : Change.requested Setting.resolutionMode.name value =
          .ok ⟨.resolutionMode, mode⟩ := Change.requested_name hread
      rw [d.afterRequest_of_requested hchange]
      rfl
    | error e =>
      have hrefused : Change.requested Setting.resolutionMode.name value =
          .error (.invalidValue Setting.resolutionMode.name value e) :=
        Change.requested_name_error hread
      rw [d.afterRequest_of_refused (isAccepted_of_error hrefused)]
      rfl
  · rename_i hname
    cases hchange : Change.requested name value with
    | error e =>
      rw [d.afterRequest_of_refused (isAccepted_of_error hchange)]
      rfl
    | ok change =>
      have hne : change.1 ≠ .resolutionMode := by
        intro heq
        have hsame := Change.name_of_requested hchange
        rw [heq] at hsame
        exact hname hsame.symm
      rw [d.afterRequest_of_requested hchange, afterChange]
      dsimp only
      rw [strategyFor?_of_ne hne]
      rfl

/-- The stored strategy after requests is that of the last mode that was accepted, or the one that
was stored before. -/
theorem afterSettings_strategy (d : Dispatcher σ) (requests : List SettingRequest) :
    (d.afterSettings requests).strategy =
      ((lastMode? requests).map HeapStrategy.preferred).getD d.strategy := by
  induction requests using List.reverseRecOn with
  | nil => rfl
  | append_singleton earlier r ih =>
    have hlast : lastMode? (earlier ++ [r]) = (requestedMode? r).or (lastMode? earlier) := by
      unfold lastMode?
      rw [List.filterMap_append, List.getLast?_append]
      cases hmode : requestedMode? r <;> simp [hmode]
    rw [afterSettings, List.foldl_concat, afterRequest_strategy, ← afterSettings, ih, hlast]
    cases requestedMode? r <;> rfl

/-- Requests for one setting come to the last of them that is accepted. -/
theorem afterSettings_of_one_name (d : Dispatcher σ) {name : String}
    {requests : List SettingRequest} (h : ∀ r ∈ requests, r.1 = name) :
    d.afterSettings requests =
      ((requests.filter isAccepted).getLast?.map d.afterRequest).getD d := by
  induction requests using List.reverseRecOn with
  | nil => rfl
  | append_singleton earlier r ih =>
    have hearlier : ∀ s ∈ earlier, s.1 = name := fun s hs => h s (List.mem_append_left _ hs)
    have hr : r.1 = name := h r (List.mem_append_right _ (List.mem_singleton_self r))
    rw [afterSettings, List.foldl_concat, ← afterSettings, List.filter_append]
    cases haccepted : isAccepted r with
    | false =>
      rw [afterRequest_of_refused _ haccepted, ih hearlier]
      simp [haccepted]
    | true =>
      have hlast : (earlier.filter isAccepted ++ [r].filter isAccepted).getLast? = some r := by
        simp [haccepted]
      rw [hlast, ih hearlier]
      cases hbefore : (earlier.filter isAccepted).getLast? with
      | none => rfl
      | some s =>
        have hs : s ∈ earlier := List.mem_of_mem_filter (List.mem_of_getLast? hbefore)
        exact d.afterRequest_overwrite ((hearlier s hs).trans hr.symm) haccepted

/-! ## The contract -/

/-- What can be relied on when settings are changed. -/
structure SettingsContract (d : Dispatcher σ) : Prop where
  /-- Whether a request is refused, and why, depends on its name and value alone. -/
  refused_iff : ∀ name value e,
    d.setConfig name value = .error e ↔ ({} : Config).set name value = .error e
  /-- A refused request leaves everything as it was. -/
  refused : ∀ r, isAccepted r = false → d.afterSettings [r] = d
  /-- Requests come to the same as the last accepted request for each setting, in any order. -/
  last_accepted : ∀ requests order, order.Perm (lastAccepted requests) →
    d.afterSettings order = d.afterSettings requests
  /-- The stored strategy is the one that the last accepted mode starts with, or the one that was
  stored before. -/
  strategy : ∀ requests, (d.afterSettings requests).strategy =
    match lastMode? requests with
    | some .auto => .debugSymbols
    | some .force => .heuristic
    | none => d.strategy
  /-- Requests for two settings can be made in either order. -/
  commute : ∀ r s, r.1 ≠ s.1 → d.afterSettings [r, s] = d.afterSettings [s, r]
  /-- Requests for one setting come to the last of them that is accepted. -/
  collapse : ∀ requests name, (∀ r ∈ requests, r.1 = name) →
    d.afterSettings requests =
      match (requests.filter isAccepted).getLast? with
      | some r => d.afterSettings [r]
      | none => d

/-- The settings of any dispatcher are changed atomically, and what requests come to depends on the
last accepted value of each setting alone. -/
theorem settings_depend_on_last_accepted_values (d : Dispatcher σ) : d.SettingsContract where
  refused_iff name value e := by
    rw [setConfig_eq, Config.set_eq]
    cases Change.requested name value with
    | ok change => simp only [Except.map, reduceCtorEq]
    | error e' => simp only [Except.map, Except.error.injEq]
  refused r h := d.afterRequest_of_refused h
  last_accepted requests order horder := by
    calc d.afterSettings order = d.afterSettings (lastAccepted requests) :=
          d.afterSettings_perm horder (lastAccepted_pairwise requests)
      _ = d.afterSettings requests := d.afterSettings_lastAccepted requests
  strategy requests := by
    rw [afterSettings_strategy]
    cases lastMode? requests with
    | none => rfl
    | some mode =>
      cases mode with
      | auto => rfl
      | force => rfl
  commute r s hname := d.afterRequest_comm hname
  collapse requests name h := by
    rw [d.afterSettings_of_one_name h]
    cases (requests.filter isAccepted).getLast? with
    | none => rfl
    | some r => rfl

end Dispatcher

end DebugShell
