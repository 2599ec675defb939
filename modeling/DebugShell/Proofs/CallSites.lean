import Mathlib.Data.List.Forall2
import Mathlib.Data.List.ReduceOption
import Mathlib.Order.Bounds.Defs
import DebugShell.Proofs.Equipment

/-!
# The call sites are walked in order

`nextcall` goes on from where the target stands to the first call site that its filter accepts.
Where the target stands is a number that outlives the invocation: the number of call sites that were
passed. `nextcall_walks_in_order` says what a shell makes of it over any sequence of lines. The
stops are at greater and greater numbers, each is the first that its filter accepts after the one
before it, and when no further site was found once, none is found any more. All lines that do not
run `nextcall` with a filter leave the target where it stands.

The argument has two halves. What the runs of `nextcall` visit depends on their filters alone:
`itinerary` computes it, and is seen to be in order by induction on the filters. A shell follows the
itinerary by induction on the lines, since one line makes the next visit or leaves the number as it
is (`Equipped.take_walk`).
-/

namespace DebugShell.Shell

/-! ## What is stated of a walk -/

/-- There is a call site with the number `k`, and a filter accepts the function that it calls. -/
def Accepted (sites : List CallSite) (accepts : String → Bool) (k : Nat) : Prop :=
  ∃ site, sites[k]? = some site ∧ accepts site.callee = true

/-- The number that a walk which started at the number `passed` goes on from after some visits: the
successor of the last stop. -/
def resume (passed : Nat) (visits : List (Option Nat)) : Nat :=
  visits.reduceOption.getLast?.elim passed (· + 1)

/-- The filters of a walk and what each of them comes to, in the same order: the number of a call
site to stop at, or none. -/
structure InOrder (sites : List CallSite) (filters : List (String → Bool))
    (visits : List (Option Nat)) : Prop where
  /-- Every filter comes to something. -/
  length_eq : visits.length = filters.length
  /-- The stops are at greater and greater numbers. -/
  increasing : visits.reduceOption.Pairwise (· < ·)
  /-- Each stop is at the first site that its filter accepts, from the successor of the stop before
  it on. -/
  first : ∀ n accepts k, filters[n]? = some accepts → visits[n]? = some (some k) →
    IsLeast {j | resume 0 (visits.take n) ≤ j ∧ Accepted sites accepts j} k
  /-- The first time that no site is found, the filter accepts none from there on. -/
  none_left : ∀ n accepts, filters[n]? = some accepts → visits[n]? = some none →
    none ∉ visits.take n → ∀ j, resume 0 (visits.take n) ≤ j → ¬Accepted sites accepts j
  /-- When no site was found once, none is found any more. -/
  exhausted : ∀ m n, m ≤ n → n < visits.length → visits[m]? = some none → visits[n]? = some none
  /-- If every filter accepts every site, the sites are visited one by one. -/
  unfiltered : (∀ accepts ∈ filters, ∀ site ∈ sites, accepts site.callee = true) →
    visits = (List.range filters.length).map fun n => if n < sites.length then some n else none

/-- What the operator is told of a visit. -/
inductive Announces (sites : List CallSite) : Option Nat → Message → Prop
  /-- The site is named by its address and the function that it calls. -/
  | stop {k : Nat} {site : CallSite} (h : sites[k]? = some site) :
    Announces sites (some k)
      (.plain s!"Stopped at call {Numeral.hex site.address.toNat} <{site.callee}>")
  /-- No site was found. -/
  | exhausted : Announces sites none (.warn "No further call instructions.")

/-- The number of call sites that are passed after a visit: all of them, if no site was found. -/
def passedAfter (sites : List CallSite) (visit : Option Nat) : Nat :=
  visit.elim sites.length (· + 1)

/-- A line makes a visit. -/
structure Visits (sites : List CallSite) (reply : Reply) (visit : Option Nat) : Prop where
  /-- It does not fail. -/
  completed : reply.result = .ok .proceed
  /-- It announces the visit, after a note if it is a repeat, and tells nothing else. -/
  announced : ∃ i message, reply.started = some i ∧ Announces sites visit message ∧
    reply.output = (if i.repeated then [.info "Continuing to the next call (repeated)"] else []) ++
      [message]
  /-- The target stands behind the site, or behind all sites if none was found. -/
  passed : reply.shell.dispatcher.memory = passedAfter sites visit

/-- The filter that a line ran `nextcall` with. There is none if the line did not run it, or gave it
a text that is no filter. -/
def Reply.filter? (readFilter : FilterReader) (reply : Reply) : Option (String → Bool) :=
  reply.started.bind fun i =>
    if i.command = "nextcall" then (requestedFilter readFilter i.args).toOption else none

/-- The replies to the lines that ran `nextcall` with a filter, each with the filter. -/
def walks (readFilter : FilterReader) (replies : List Reply) : List ((String → Bool) × Reply) :=
  replies.filterMap fun reply => (reply.filter? readFilter).map (·, reply)

/-! ## One visit -/

/-- The visit that a filter comes to when a number of call sites were passed. -/
def visit (sites : List CallSite) (accepts : String → Bool) (passed : Nat) : Option Nat :=
  (nextSite? sites accepts passed).map (·.1)

section Visit

variable (sites : List CallSite) (accepts : String → Bool) (passed : Nat)

/-- A site is accepted exactly if the filter accepts the function that it calls. -/
theorem accepted_iff (k : Nat) :
    Accepted sites accepts k ↔ ∃ h : k < sites.length, accepts sites[k].callee = true := by
  unfold Accepted
  simp only [List.getElem?_eq_some_iff]
  constructor
  · rintro ⟨_, ⟨hlt, rfl⟩, haccepts⟩
    exact ⟨hlt, haccepts⟩
  · rintro ⟨hlt, haccepts⟩
    exact ⟨sites[k], ⟨hlt, rfl⟩, haccepts⟩

/-- The next site is the first that the filter accepts, and there is none if it accepts none. -/
theorem nextSite?_cases :
    (nextSite? sites accepts passed = none ∧ ∀ j, passed ≤ j → ¬Accepted sites accepts j) ∨
      ∃ k site, nextSite? sites accepts passed = some (k, site) ∧ sites[k]? = some site ∧
        IsLeast {j | passed ≤ j ∧ Accepted sites accepts j} k := by
  unfold nextSite?
  cases hfind : (sites.drop passed).findIdx? fun site => accepts site.callee with
  | none =>
    rw [List.findIdx?_eq_none_iff] at hfind
    refine .inl ⟨rfl, fun j hj ⟨site, hsite, haccepts⟩ => ?_⟩
    have hdrop : (sites.drop passed)[j - passed]? = some site := by
      rw [List.getElem?_drop, Nat.add_sub_cancel' hj, hsite]
    have hrefused := hfind site (List.mem_of_getElem? hdrop)
    rw [haccepts] at hrefused
    cases hrefused
  | some i =>
    obtain ⟨hi, haccepts, hbefore⟩ := List.findIdx?_eq_some_iff_getElem.1 hfind
    rw [List.length_drop] at hi
    have hlt : passed + i < sites.length := by omega
    rw [List.getElem_drop] at haccepts
    refine .inr ⟨passed + i, sites[passed + i], ?_, List.getElem?_eq_getElem hlt, ⟨?_, ?_⟩⟩
    · rw [Option.bind_some, List.getElem?_eq_getElem hlt]
      rfl
    · exact ⟨Nat.le_add_right _ _, (accepted_iff sites accepts _).2 ⟨hlt, haccepts⟩⟩
    · rintro j ⟨hj, haccepted⟩
      obtain ⟨hjlt, hjaccepts⟩ := (accepted_iff sites accepts j).1 haccepted
      by_contra hless
      have hrefused := hbefore (j - passed) (by omega)
      simp only [List.getElem_drop, Nat.add_sub_cancel' hj] at hrefused
      exact hrefused hjaccepts

/-- A visit is at the first site that the filter accepts. -/
theorem visit_eq_some {k : Nat} (h : visit sites accepts passed = some k) :
    IsLeast {j | passed ≤ j ∧ Accepted sites accepts j} k := by
  unfold visit at h
  rcases nextSite?_cases sites accepts passed with ⟨hnone, -⟩ | ⟨k', site, hsome, -, hleast⟩
  · rw [hnone] at h
    cases h
  · rw [hsome] at h
    cases h
    exact hleast

/-- A visit is at no site exactly if the filter accepts none. -/
theorem visit_eq_none_iff :
    visit sites accepts passed = none ↔ ∀ j, passed ≤ j → ¬Accepted sites accepts j := by
  unfold visit
  rcases nextSite?_cases sites accepts passed with ⟨hnone, hleft⟩ | ⟨k, site, hsome, -, hleast⟩
  · rw [hnone]
    exact iff_of_true rfl hleft
  · rw [hsome]
    exact iff_of_false (Option.some_ne_none k) fun hleft => hleft k hleast.1.1 hleast.1.2

/-- Behind all sites, no filter comes to a stop. -/
theorem visit_of_passed (h : sites.length ≤ passed) : visit sites accepts passed = none := by
  rw [visit_eq_none_iff]
  intro j hj haccepted
  obtain ⟨hlt, -⟩ := (accepted_iff sites accepts j).1 haccepted
  omega

/-- A filter that accepts every site comes to the next one, as long as there is one. -/
theorem visit_of_unfiltered (h : ∀ site ∈ sites, accepts site.callee = true) :
    visit sites accepts passed = if passed < sites.length then some passed else none := by
  split
  · rename_i hlt
    have haccepted : Accepted sites accepts passed :=
      (accepted_iff sites accepts passed).2 ⟨hlt, h _ (List.getElem_mem hlt)⟩
    cases hvisit : visit sites accepts passed with
    | none => exact absurd haccepted ((visit_eq_none_iff _ _ _).1 hvisit passed (Nat.le_refl _))
    | some k =>
      obtain ⟨⟨hpassed, -⟩, hleast⟩ := visit_eq_some sites accepts passed hvisit
      have hk : k ≤ passed := hleast ⟨Nat.le_refl _, haccepted⟩
      rw [Nat.le_antisymm hk hpassed]
  · rename_i hge
    exact visit_of_passed sites accepts passed (Nat.le_of_not_lt hge)

/-- Running on to the next call makes the visit and announces it. -/
theorem runToCall_visits :
    (runToCall sites accepts passed).1 = passedAfter sites (visit sites accepts passed) ∧
      Announces sites (visit sites accepts passed) (runToCall sites accepts passed).2 := by
  unfold runToCall visit
  rcases nextSite?_cases sites accepts passed with ⟨hnone, -⟩ | ⟨k, site, hsome, hsite, -⟩
  · rw [hnone]
    exact ⟨rfl, .exhausted⟩
  · rw [hsome]
    exact ⟨rfl, .stop hsite⟩

end Visit

/-! ## The itinerary -/

/-- The visits that filters come to one after the other, when a number of call sites were passed. -/
def itinerary (sites : List CallSite) (passed : Nat) : List (String → Bool) → List (Option Nat)
  | [] => []
  | accepts :: rest =>
    visit sites accepts passed ::
      itinerary sites (passedAfter sites (visit sites accepts passed)) rest

section Itinerary

variable (sites : List CallSite)

/-- Every filter comes to a visit. -/
theorem length_itinerary (passed : Nat) (filters : List (String → Bool)) :
    (itinerary sites passed filters).length = filters.length := by
  induction filters generalizing passed with
  | nil => rfl
  | cons accepts rest ih => rw [itinerary, List.length_cons, List.length_cons, ih]

/-- Behind all sites, no walk comes to a stop. -/
theorem itinerary_of_passed {passed : Nat} (h : sites.length ≤ passed)
    (filters : List (String → Bool)) :
    itinerary sites passed filters = List.replicate filters.length none := by
  induction filters generalizing passed with
  | nil => rfl
  | cons accepts rest ih =>
    have hnone : visit sites accepts passed = none := visit_of_passed sites accepts passed h
    rw [itinerary, hnone, List.length_cons, List.replicate_succ]
    exact congrArg (none :: ·) (ih (Nat.le_refl sites.length))

/-- No stop is before the number that the walk starts at. -/
theorem le_of_mem_itinerary {passed k : Nat} {filters : List (String → Bool)}
    (h : some k ∈ itinerary sites passed filters) : passed ≤ k := by
  induction filters generalizing passed with
  | nil => cases h
  | cons accepts rest ih =>
    rw [itinerary, List.mem_cons] at h
    cases hvisit : visit sites accepts passed with
    | none =>
      rw [hvisit] at h
      rcases h with h | h
      · cases h
      · have hpassed := itinerary_of_passed sites (Nat.le_refl sites.length) rest
        rw [passedAfter, Option.elim_none, hpassed, List.mem_replicate] at h
        cases h.2
    | some first =>
      have hfirst := (visit_eq_some sites accepts passed hvisit).1.1
      rw [hvisit] at h
      rcases h with h | h
      · cases h
        exact hfirst
      · have hrest := ih h
        rw [passedAfter, Option.elim_some] at hrest
        omega

/-- The stops are at greater and greater numbers. -/
theorem itinerary_increasing (passed : Nat) (filters : List (String → Bool)) :
    (itinerary sites passed filters).reduceOption.Pairwise (· < ·) := by
  induction filters generalizing passed with
  | nil => exact .nil
  | cons accepts rest ih =>
    rw [itinerary]
    cases hvisit : visit sites accepts passed with
    | none =>
      rw [List.reduceOption_cons_of_none]
      exact ih _
    | some first =>
      rw [List.reduceOption_cons_of_some, List.pairwise_cons]
      refine ⟨fun k hk => ?_, ih _⟩
      -- The rest of the walk starts at the successor of the first stop.
      exact le_of_mem_itinerary sites (List.reduceOption_mem_iff.1 hk)

/-- A stop at the beginning of a walk is as if the walk had started at its successor. -/
theorem resume_cons_some (passed k : Nat) (visits : List (Option Nat)) :
    resume passed (some k :: visits) = resume (k + 1) visits := by
  unfold resume
  rw [List.reduceOption_cons_of_some, List.getLast?_cons]
  cases visits.reduceOption.getLast? with
  | none => rfl
  | some last => rfl

/-- As long as sites were found, a filter comes to the visit that it comes to from the successor of
the last stop. -/
theorem getElem?_itinerary {passed n : Nat} {filters : List (String → Bool)}
    {accepts : String → Bool} (hn : filters[n]? = some accepts)
    (hfound : none ∉ (itinerary sites passed filters).take n) :
    (itinerary sites passed filters)[n]? =
      some (visit sites accepts (resume passed ((itinerary sites passed filters).take n))) := by
  induction filters generalizing passed n with
  | nil => cases hn
  | cons first rest ih =>
    rw [itinerary] at hfound ⊢
    cases n with
    | zero =>
      cases hn
      rfl
    | succ n =>
      -- The first visit is a stop, since it is among the visits before the one at `n + 1`.
      rw [List.take_succ_cons, List.mem_cons, not_or] at hfound
      obtain ⟨k, hvisit⟩ := Option.ne_none_iff_exists'.1 (Ne.symm hfound.1)
      rw [hvisit] at hfound ⊢
      rw [List.getElem?_cons_succ] at hn ⊢
      rw [ih hn hfound.2, List.take_succ_cons, resume_cons_some]
      rfl

/-- When no site was found once, none is found any more. -/
theorem itinerary_exhausted {passed m n : Nat} {filters : List (String → Bool)} (hmn : m ≤ n)
    (hn : n < filters.length) (hm : (itinerary sites passed filters)[m]? = some none) :
    (itinerary sites passed filters)[n]? = some none := by
  induction filters generalizing passed m n with
  | nil => cases hn
  | cons accepts rest ih =>
    rw [itinerary] at hm ⊢
    cases n with
    | zero =>
      obtain rfl : m = 0 := by omega
      exact hm
    | succ n =>
      rw [List.getElem?_cons_succ]
      rw [List.length_cons, Nat.succ_lt_succ_iff] at hn
      cases m with
      | zero =>
        -- No site was found at first, so the rest of the walk starts behind all sites.
        rw [List.getElem?_cons_zero, Option.some.injEq] at hm
        rw [hm, passedAfter, Option.elim_none, itinerary_of_passed sites (Nat.le_refl _),
          List.getElem?_replicate, if_pos hn]
      | succ m =>
        rw [List.getElem?_cons_succ] at hm
        exact ih (Nat.le_of_succ_le_succ hmn) hn hm

/-- If every filter accepts every site, the sites are visited one by one. -/
theorem itinerary_unfiltered {passed : Nat} (hpassed : passed ≤ sites.length)
    {filters : List (String → Bool)}
    (hfilters : ∀ accepts ∈ filters, ∀ site ∈ sites, accepts site.callee = true) :
    itinerary sites passed filters = (List.range filters.length).map fun n =>
      if passed + n < sites.length then some (passed + n) else none := by
  induction filters generalizing passed with
  | nil => rfl
  | cons accepts rest ih =>
    obtain ⟨hfirst, hrest⟩ := List.forall_mem_cons.1 hfilters
    rw [itinerary, visit_of_unfiltered sites accepts passed hfirst, List.length_cons,
      List.range_succ_eq_map, List.map_cons, List.map_map, Nat.add_zero]
    congr 1
    split
    · rename_i hlt
      rw [passedAfter, Option.elim_some, ih hlt hrest]
      refine List.map_congr_left fun n _ => ?_
      simp only [Function.comp_apply, Nat.succ_eq_add_one, Nat.add_assoc, Nat.add_comm n 1]
    · -- All sites were passed, and the rest of the walk starts behind them.
      rename_i hge
      rw [passedAfter, Option.elim_none, ih (Nat.le_refl _) hrest]
      refine List.map_congr_left fun n _ => ?_
      simp only [Function.comp_apply]
      rw [if_neg (by omega), if_neg (by omega)]

/-- A stop has only stops before it. -/
theorem none_not_mem_of_stop {passed n k : Nat} {filters : List (String → Bool)}
    (hn : n < filters.length) (hstop : (itinerary sites passed filters)[n]? = some (some k)) :
    none ∉ (itinerary sites passed filters).take n := by
  intro hnone
  obtain ⟨m, hm⟩ := List.mem_iff_getElem?.1 hnone
  rw [List.getElem?_take] at hm
  split at hm
  · rename_i hmn
    rw [itinerary_exhausted sites (Nat.le_of_lt hmn) hn hm] at hstop
    cases hstop
  · cases hm

/-- What filters come to one after the other, from the first site on, is in order. -/
theorem inOrder_itinerary (filters : List (String → Bool)) :
    InOrder sites filters (itinerary sites 0 filters) where
  length_eq := length_itinerary sites 0 filters
  increasing := itinerary_increasing sites 0 filters
  first n accepts k hn hstop := by
    obtain ⟨hlt, -⟩ := List.getElem?_eq_some_iff.1 hn
    rw [getElem?_itinerary sites hn (none_not_mem_of_stop sites hlt hstop)] at hstop
    exact visit_eq_some sites accepts _ (Option.some.inj hstop)
  none_left n accepts hn hnone hfound := by
    rw [getElem?_itinerary sites hn hfound] at hnone
    exact (visit_eq_none_iff sites accepts _).1 (Option.some.inj hnone)
  exhausted m n hmn hn hm := by
    rw [length_itinerary] at hn
    exact itinerary_exhausted sites hmn hn hm
  unfiltered h := by
    rw [itinerary_unfiltered sites (Nat.zero_le _) h]
    simp only [Nat.zero_add]

end Itinerary

/-! ## A shell follows the itinerary -/

variable {readFilter : FilterReader} {s : Shell}

/-- A line that does not run `nextcall` with a filter leaves the target where it stands. -/
theorem Equipped.take_rest (hs : s.Equipped readFilter) {input : Input}
    (h : (s.take input).filter? readFilter = none) :
    (s.take input).shell.dispatcher.memory = s.dispatcher.memory := by
  cases hstarted : (s.take input).started with
  | none => exact (s.taken input).memory_of_idle hstarted
  | some i =>
    obtain ⟨c, hc, hruns⟩ := hs.runs (s.taken input) hstarted
    rw [hruns.memory]
    by_cases hname : c.name = "nextcall"
    · obtain rfl := eq_of_name_eq hc (nextcall_mem_commands _ _) hname
      unfold Reply.filter? at h
      rw [hstarted, Option.bind_some, if_pos (hruns.command.trans hname)] at h
      cases hfilter : requestedFilter readFilter i.args with
      | ok accepts =>
        rw [hfilter] at h
        cases h
      | error report =>
        rw [nextcall_body_of_no_filter _ s.target hfilter]
        rfl
    · exact (body_of_other s.dispatcher.memory hc hname).memory_eq

/-- A line that runs `nextcall` with a filter makes the visit that the filter comes to. -/
theorem Equipped.take_walk (hs : s.Equipped readFilter) {input : Input} {accepts : String → Bool}
    (h : (s.take input).filter? readFilter = some accepts) :
    Visits s.target.callSites (s.take input)
      (visit s.target.callSites accepts s.dispatcher.memory) := by
  obtain ⟨i, hstarted, h⟩ := Option.bind_eq_some_iff.1 h
  split at h
  · rename_i hcommand
    have hruns := hs.runs_of_command (s.taken input) hstarted (nextcall_mem_commands _ _) hcommand
    cases hfilter : requestedFilter readFilter i.args with
    | ok accepts' =>
      rw [hfilter] at h
      cases h
      have hbody := nextcall_body_of_filter s.dispatcher.memory s.target hfilter
      obtain ⟨hpassed, hannounced⟩ :=
        runToCall_visits s.target.callSites accepts s.dispatcher.memory
      refine ⟨?_, ⟨i, _, hstarted, hannounced, ?_⟩, ?_⟩
      · rw [hruns.result, hbody]
        rfl
      · rw [hruns.output, hbody]
        simp [telling, Command.afterword, nextcall]
      · rw [hruns.memory, hbody]
        exact hpassed
    | error report =>
      rw [hfilter] at h
      cases h
  · cases h

/-- The runs of `nextcall` among the replies to any lines make the visits of the itinerary. -/
theorem Equipped.replies_visit (hs : s.Equipped readFilter) (inputs : List Input) :
    List.Forall₂ (Visits s.target.callSites)
      ((walks readFilter (s.replies inputs)).map (·.2))
      (itinerary s.target.callSites s.dispatcher.memory
        ((walks readFilter (s.replies inputs)).map (·.1))) := by
  induction inputs generalizing s with
  | nil => exact .nil
  | cons input rest ih =>
    obtain ⟨hequipped, htarget⟩ := hs.take input
    have hrest := ih hequipped
    rw [htarget] at hrest
    rw [replies, walks]
    cases hfilter : (s.take input).filter? readFilter with
    | none =>
      rw [hs.take_rest hfilter] at hrest
      rw [List.filterMap_cons_none (by rw [hfilter]; rfl)]
      exact hrest
    | some accepts =>
      have hvisit := hs.take_walk hfilter
      rw [hvisit.passed] at hrest
      rw [List.filterMap_cons_some (by rw [hfilter]; rfl)]
      exact .cons hvisit hrest

/-- In a shell of any target, whatever its filters are read as, the runs of `nextcall` visit the
call sites in order: each makes the visit that its filter comes to after the ones before it,
whatever lines stand between them. Lines that do not run it with a filter (because it is refused, is
given a text that is no filter, or is not what the line asks for) leave the target where it
stands. -/
theorem nextcall_walks_in_order {target : Target} {config : Config} {shell : Shell}
    (hstart : startWith readFilter target config = .ok shell) :
    (∀ inputs, ∃ visits,
      List.Forall₂ (Visits target.callSites)
        ((walks readFilter (shell.replies inputs)).map (·.2)) visits ∧
      InOrder target.callSites ((walks readFilter (shell.replies inputs)).map (·.1)) visits) ∧
    ∀ before input, ((shell.after before).take input).filter? readFilter = none →
      ((shell.after before).take input).shell.dispatcher.memory =
        (shell.after before).dispatcher.memory := by
  obtain ⟨hequipped, rfl, hmemory⟩ := equipped_of_startWith hstart
  refine ⟨fun inputs => ⟨_, ?_, inOrder_itinerary _ _⟩, fun before input h => ?_⟩
  · rw [← hmemory]
    exact hequipped.replies_visit inputs
  · exact (hequipped.after before).1.take_rest h

/-- A target with a live process, on a debugger without commands of its own, that calls three
functions. -/
def allocatingTarget : Target :=
  { session := { processAlive := true }, builtins := some "",
    callSites := [⟨0x401100, "malloc"⟩, ⟨0x401120, "puts"⟩, ⟨0x401140, "free"⟩] }

/-- Lines with and without filters, with a text that is no filter, and with refused arguments. -/
def allocatingLines : List Input :=
  [.typed "nextcall", .scripted "nextcall (", .typed "show glibc", .typed "nextcall fr",
    .scripted "nextcall --help", .typed "nextcall", .typed " "]

/-- Between lines that leave the target where it stands, the filters lead to the first site, past
the second to the third, and then to none. -/
theorem nextcall_walk_of_allocating_target : ∃ shell visits,
    start allocatingTarget {} = .ok shell ∧
    (walks patternFilter (shell.replies allocatingLines)).map (·.2.output) =
      [[.plain "Stopped at call 0x401100 <malloc>"], [.plain "Stopped at call 0x401140 <free>"],
        [.warn "No further call instructions."],
        [.info "Continuing to the next call (repeated)", .warn "No further call instructions."]] ∧
    visits.length = 4 ∧ InOrder allocatingTarget.callSites
      ((walks patternFilter (shell.replies allocatingLines)).map (·.1)) visits := by
  have hrun : ((start allocatingTarget {}).toOption.map fun shell =>
      (walks patternFilter (shell.replies allocatingLines)).map (·.2.output)) =
      some [[.plain "Stopped at call 0x401100 <malloc>"],
        [.plain "Stopped at call 0x401140 <free>"], [.warn "No further call instructions."],
        [.info "Continuing to the next call (repeated)",
          .warn "No further call instructions."]] := by
    decide +kernel
  cases hstart : start allocatingTarget {} with
  | ok shell =>
    rw [hstart] at hrun
    have houtputs := Option.some.inj hrun
    rw [start_eq_startWith] at hstart
    obtain ⟨visits, -, horder⟩ := (nextcall_walks_in_order hstart).1 allocatingLines
    refine ⟨shell, visits, rfl, houtputs, ?_, horder⟩
    have hlength := congrArg List.length houtputs
    rw [List.length_map] at hlength
    rw [horder.length_eq, List.length_map, hlength]
    rfl
  | error e =>
    rw [hstart] at hrun
    cases hrun

end DebugShell.Shell
