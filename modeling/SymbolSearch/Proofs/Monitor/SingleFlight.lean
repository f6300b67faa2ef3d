import Mathlib.Data.List.Basic
import SymbolSearch.Proofs.Monitor.Demanding

/-!
# One launch for all

Once a proxy is ready and remains so, all who ask a monitor to make one run only have to find that
out, one after the other.

* `KeeperCourse.Served` — nobody launches a process, and nobody has failed;
  `KeeperCourse.Served.next` says that this lasts as long as a proxy is ready.
* `KeeperCourse.Follows` — who is in line, and behind whom. Whoever has the turn is done with it
  after at most two steps, and nobody else holds up those in line.
* `KeeperCourse.allSucceed` — so everybody is told at some time that a proxy runs.

However many ask a monitor at the same time to make a proxy run, one launch does for all of them.

* `KeeperCourse.Awaited`, `KeeperCourse.Underway` and `KeeperCourse.Lost` — nothing has been
  launched yet; the one who has launched the first process waits for it; he has stopped waiting.
* `KeeperCourse.Underway.next_of_greets` — when he finds the process ready, all are served.
* `KeeperCourse.single_flight` — one launch is enough if the process becomes ready, none is needed
  if a proxy is ready before, and everybody is told that a proxy runs.
-/

namespace SymbolSearch

/-! ### A proxy that is ready -/

namespace DemandPoint

/-- Whether a proxy is being launched. -/
def IsLaunching : DemandPoint → Prop
  | .launching _ _ => True
  | _ => False

/-- How many steps come before the last one of who has the turn, if a proxy is ready. -/
def toGo : DemandPoint → Nat
  | .queued _ => 1
  | _ => 0

theorem toGo_le (point : DemandPoint) : point.toGo ≤ 1 := by
  cases point <;> simp [toGo]

theorem inside_of_isLaunching {point : DemandPoint} (h : point.IsLaunching) :
    point.errand.Inside := by
  cases point with
  | launching ticket launch => cases launch <;> trivial
  | _ => exact absurd h id

end DemandPoint

namespace KeeperCourse

variable {course : KeeperCourse} {event : KeeperCourseEvent} {i j : Nat} {point : DemandPoint}
  {ticket : Ticket}

/-- Whether a call has returned, and a proxy runs. -/
def Succeeded (course : KeeperCourse) (i : Nat) : Prop :=
  course.tasks[i]? = some (.ended (some (.launched (.ok ()))))

/-- Whether one who has not ended launches nothing, and one who has ended has found a proxy. -/
def FaresWell : Standing KeeperCall (Option KeeperReply) → Prop
  | .waiting call => ∀ point, call = .ensuring point → ¬point.IsLaunching
  | .ended result => result = some (.launched (.ok ()))

/-- Nobody launches a process, or has failed. -/
structure Served (course : KeeperCourse) (calls : Nat) : Prop where
  flying : course.Flying
  calls : course.shared.around.calls = calls
  well : ∀ standing ∈ course.tasks, FaresWell standing

namespace Served

variable {calls : Nat}

theorem not_isLaunching (h : course.Served calls)
    (stands : course.task? i = some (.ensuring point)) : ¬point.IsLaunching :=
  h.well _ (Crowd.mem_of_task? stands) point rfl

theorem succeeded (h : course.Served calls) {result : Option KeeperReply}
    (hended : course.tasks[i]? = some (.ended result)) : Succeeded course i := by
  have hresult : result = some (.launched (.ok ())) := h.well _ (List.mem_of_getElem? hended)
  rwa [hresult] at hended

theorem next (h : course.Served calls) (hevent : event.Demands)
    (hanswers : course.tasks ≠ [] → course.shared.around.answers = true) :
    Served (keeperRules.next course event) calls := by
  have hflying := h.flying.next hevent
  have hmoves := h.flying.next_moves hevent
  generalize keeperRules.next course event = course' at hflying hmoves ⊢
  cases hmoves with
  | passes => exact ⟨hflying, h.calls, h.well⟩
  | begins =>
    refine ⟨hflying, h.calls, Crowd.forall_concat h.well ?_⟩
    rintro point ⟨⟩
    exact id
  | changes event change calls => exact ⟨hflying, (calls _).trans h.calls, h.well⟩
  | moves i wall point point' upkeep stands step =>
    have hpoint := h.not_isLaunching stands
    have hready := hanswers (List.ne_nil_of_mem (Crowd.mem_of_task? stands))
    suffices upkeep.around.calls = course.shared.around.calls ∧ ¬point'.IsLaunching by
      refine ⟨hflying, ?_, Crowd.forall_put h.well i _ ?_⟩
      · rw [Crowd.shared_put, Keeper.around_withUpkeep, this.1, h.calls]
      · rintro point ⟨⟩
        exact this.2
    cases step with
    | joins | joinsFirst | checks => exact ⟨rfl, id⟩
    | demands ticket silent => exact absurd (silent.symm.trans hready) nofun
    | launches | polls => exact absurd trivial hpoint
  | finishes i wall point result upkeep stands step =>
    have hpoint := h.not_isLaunching stands
    suffices upkeep.around.calls = course.shared.around.calls ∧ result = .ok () by
      refine ⟨hflying, ?_, Crowd.forall_put h.well i _ (by rw [this.2]; rfl)⟩
      rw [Crowd.shared_put, Keeper.around_withUpkeep, this.1, h.calls]
    cases step with
    | knows | learns | meets => exact ⟨rfl, rfl⟩
    | refused | greets | loses => exact absurd trivial hpoint

end Served

/-! ### The line -/

/-- A call is in line, at a place, and another one, or the same, leads the line. -/
structure Follows (course : KeeperCourse) (i place j : Nat) (point : DemandPoint) : Prop where
  inLine : ∃ ticket, ticketOf course i = some ticket ∧
    course.shared.monitor.turns.line.idxOf ticket = place
  stands : course.task? j = some (.ensuring point)
  leads : ∃ ticket, course.shared.monitor.turns.holder = some ticket ∧ point.ticket? = some ticket

namespace Served

variable {calls : Nat}

/-- Somebody leads the line. -/
theorem exists_follows (h : course.Served calls) (hticket : ticketOf course i = some ticket) :
    ∃ j point, Follows course i (course.shared.monitor.turns.line.idxOf ticket) j point := by
  have hlists := h.flying.lists
  obtain ⟨held, hheld⟩ := hlists.exists_holder ((hlists.mem_iff ticket).mpr ⟨i, hticket⟩)
  have hmem : held ∈ course.shared.monitor.turns.line := by
    rw [Turns.line, hheld]
    exact List.mem_cons_self
  obtain ⟨j, hj⟩ := (hlists.mem_iff held).mp hmem
  cases hcall : course.task? j with
  | none =>
    rw [ticketOf, errand, hcall] at hj
    cases hj
  | some call =>
    obtain ⟨point, rfl⟩ := h.flying.calls j call hcall
    rw [ticketOf_call hcall] at hj
    exact ⟨j, point, ⟨ticket, hticket, rfl⟩, hcall, held, hheld, hj⟩

end Served

/-- Nobody else holds up those in line. -/
theorem Follows.next_of_other {place : Nat} (h : Follows course i place j point)
    (hflying : course.Flying) (hevent : event.Demands) (hother : event.index? ≠ some j) :
    Follows (keeperRules.next course event) i place j point := by
  obtain ⟨⟨ticket, hticket, hplace⟩, stands, held, hheld, hpoint⟩ := h
  have hkeeps : ¬event.GivesUp := by
    rintro ⟨k, rfl⟩
    exact hevent
  have stands' := keeperRules.task?_next stands hother hkeeps
  have hmoves := hflying.next_moves hevent
  have hmem := (hflying.lists.mem_iff ticket).mpr ⟨i, hticket⟩
  -- Who goes on is not in line yet, and gets in line at the end of it.
  have hput {k : Nat} {found : DemandPoint} {upkeep : Upkeep Vicinity}
      {progress : Progress DemandPoint Launched}
      {standing : Standing KeeperCall (Option KeeperReply)} (hkj : k ≠ j)
      (hfound : course.task? k = some (.ensuring found))
      (step : DemandMoves course.now course.shared.upkeep found upkeep progress)
      (hgoes : progress ≠ .blocked) :
      let course' := course.put k (course.shared.withUpkeep upkeep) standing
      (ticketOf course' i = some ticket ∧ course'.shared.monitor.turns.line.idxOf ticket = place) ∧
        course'.shared.monitor.turns.holder = some held := by
    have hnone := hflying.ticket?_eq_none stands (hheld.trans hpoint.symm) hkj hfound step hgoes
    have hki : i ≠ k := by
      rintro rfl
      rw [ticketOf_call hfound, hnone] at hticket
      cases hticket
    have hline := step.line hgoes (hflying.holder_of_inside hfound)
    obtain ⟨hholder, rest, hrest⟩ := hline.of_other hheld (by rw [hnone]; exact nofun)
    refine ⟨⟨(ticketOf_put_of_ne hki _ _).trans hticket, ?_⟩, ?_⟩
    · rw [Crowd.shared_put, Keeper.monitor_withUpkeep, ← hrest, ← hplace]
      exact List.idxOf_append_of_mem hmem
    · rw [Crowd.shared_put, Keeper.monitor_withUpkeep]
      exact hholder
  generalize keeperRules.next course event = course' at hmoves stands' ⊢
  cases hmoves with
  | passes | changes => exact ⟨⟨ticket, hticket, hplace⟩, stands', held, hheld, hpoint⟩
  | begins =>
    exact ⟨⟨ticket, (ticketOf_begin course i).trans hticket, hplace⟩, stands', held, hheld, hpoint⟩
  | moves k wall found found' upkeep hfound step =>
    obtain ⟨hline, hholder⟩ := hput (fun hkj => hother (congrArg some hkj)) hfound step nofun
    exact ⟨⟨ticket, hline⟩, stands', held, hholder, hpoint⟩
  | finishes k wall found result upkeep hfound step =>
    obtain ⟨hline, hholder⟩ := hput (fun hkj => hother (congrArg some hkj)) hfound step nofun
    exact ⟨⟨ticket, hline⟩, stands', held, hholder, hpoint⟩

theorem succeeded_put {call : KeeperCall} (stands : course.task? i = some call)
    (keeper : Keeper Vicinity) :
    Succeeded (course.put i keeper (.ended (some (.launched (.ok ()))))) i :=
  List.getElem?_set_self (Crowd.lt_of_task? stands)

/-- Whoever leads the line comes closer to the end with a step of his, and so do those behind
    him. -/
theorem Follows.next_of_leader {place calls : Nat} (h : Follows course i place j point)
    (hserved : course.Served calls) (hevent : event.Demands)
    (hanswers : course.tasks ≠ [] → course.shared.around.answers = true)
    (hleader : event.index? = some j) :
    Succeeded (keeperRules.next course event) i ∨
      ∃ place' j' point', Follows (keeperRules.next course event) i place' j' point' ∧
        2 * place' + point'.toGo < 2 * place + point.toGo := by
  obtain ⟨⟨ticket, hticket, hplace⟩, stands, held, hheld, hpoint⟩ := h
  obtain ⟨wall, rfl⟩ := CrowdEvent.eq_step_of_index? hleader
  have hidle := hserved.not_isLaunching stands
  have hready := hanswers (List.ne_nil_of_mem (Crowd.mem_of_task? stands))
  have hserved' := hserved.next hevent hanswers
  have hmoves := hserved.flying.next_moves hevent
  generalize keeperRules.next course (.step j wall) = course' at hserved' hmoves ⊢
  cases hmoves with
  | passes _ now waits =>
    rcases (waits j _ rfl stands).cases_of_blocked with
      ⟨other, rfl, hwaits⟩ | ⟨_, _, _, _, rfl, -⟩
    · exact absurd (hheld.trans hpoint.symm) hwaits
    · exact absurd trivial hidle
  | moves _ _ point point' upkeep hsame step =>
    obtain rfl := KeeperCall.ensuring.inj (Option.some.inj (stands.symm.trans hsame))
    cases step with
    | checks =>
      -- The line is as it was, and its leader is about to ask the proxy.
      refine .inr ⟨place, j, _, ⟨⟨ticket, ?_, ?_⟩, Crowd.task?_put_self stands _, held, ?_, hpoint⟩,
        Nat.lt_succ_self _⟩
      · by_cases hij : i = j
        · subst hij
          rw [ticketOf_put_self stands, ← hticket, ticketOf_call stands]
          rfl
        · rw [ticketOf_put_of_ne hij, hticket]
      · rw [Crowd.shared_put, Keeper.monitor_withUpkeep]
        exact hplace
      · rw [Crowd.shared_put, Keeper.monitor_withUpkeep]
        exact hheld
    | joins | joinsFirst => cases hpoint
    | demands ticket silent => exact absurd (silent.symm.trans hready) nofun
    | launches | polls => exact absurd trivial hidle
  | finishes _ _ point result upkeep hsame step =>
    obtain rfl := KeeperCall.ensuring.inj (Option.some.inj (stands.symm.trans hsame))
    suffices upkeep.monitor.turns = course.shared.monitor.turns.leave held ∧ result = .ok () by
      obtain ⟨hturns, rfl⟩ := this
      by_cases hij : i = j
      · subst hij
        exact .inl (succeeded_put stands _)
      · -- The leader leaves the others behind, each one place further in front.
        have hticket' := (ticketOf_put_of_ne hij (course.shared.withUpkeep upkeep)
          (.ended (some (.launched (.ok ()))))).trans hticket
        have hne : held ≠ ticket := by
          rintro rfl
          exact hij (hserved.flying.serves.distinct i j held hticket
            ((ticketOf_call stands).trans hpoint))
        obtain ⟨k, found, hfollows⟩ := hserved'.exists_follows hticket'
        refine .inr ⟨_, k, found, hfollows, ?_⟩
        rw [Crowd.shared_put, Keeper.monitor_withUpkeep, hturns, ← hplace, Turns.line_leave hheld,
          List.idxOf_cons_ne _ hne]
        have hfound := found.toGo_le
        omega
    cases step with
    | learns | meets =>
      obtain rfl := Option.some.inj hpoint
      exact ⟨rfl, rfl⟩
    | knows => cases hpoint
    | refused | greets | loses => exact absurd trivial hidle

/-- Who has just begun finds a proxy with his first step, or gets in line. -/
theorem Flying.next_of_starting (h : course.Flying) (hevent : event.Demands)
    (stands : course.task? i = some (.ensuring .starting)) (hstep : event.index? = some i) :
    Succeeded (keeperRules.next course event) i ∨
      ∃ ticket, ticketOf (keeperRules.next course event) i = some ticket := by
  obtain ⟨wall, rfl⟩ := CrowdEvent.eq_step_of_index? hstep
  have hmoves := h.next_moves hevent
  generalize keeperRules.next course (.step i wall) = course' at hmoves ⊢
  cases hmoves with
  | passes _ now waits =>
    rcases (waits i _ rfl stands).cases_of_blocked with ⟨_, hsame, -⟩ | ⟨_, _, _, _, hsame, -⟩
    · cases hsame
    · cases hsame
  | moves _ _ point point' upkeep hsame step =>
    obtain rfl := KeeperCall.ensuring.inj (Option.some.inj (stands.symm.trans hsame))
    refine .inr ?_
    rw [ticketOf_put_self stands]
    cases step with
    | joins | joinsFirst => exact ⟨_, rfl⟩
  | finishes _ _ point result upkeep hsame step =>
    obtain rfl := KeeperCall.ensuring.inj (Option.some.inj (stands.symm.trans hsame))
    cases step with
    | knows => exact .inl (succeeded_put stands _)

/-! ### Endless courses -/

/-- What the first events of a run lead to. -/
abbrev along (settings : MonitorSettings) (run : Nat → KeeperCourseEvent) (n : Nat) :
    KeeperCourse :=
  keeperRules.along (start settings) run n

/-- Whether every call returns at some time, and a proxy runs. -/
def AllSucceed (settings : MonitorSettings) (run : Nat → KeeperCourseEvent) : Prop :=
  ∀ n, ∀ i < (along settings run n).tasks.length, ∃ m, Succeeded (along settings run m) i

section Runs

variable {settings : MonitorSettings} {run : Nat → KeeperCourseEvent} {first calls n : Nat}

theorem served_of_le (hdemands : ∀ n, (run n).Demands)
    (hanswers : ∀ n ≥ first, (along settings run n).tasks ≠ [] →
      (along settings run n).shared.around.answers = true)
    (hfirst : Served (along settings run first) calls) (hn : first ≤ n) :
    Served (along settings run n) calls := by
  induction n, hn using Nat.le_induction with
  | base => exact hfirst
  | succ n hn ih =>
    have hnext := ih.next (hdemands n) (hanswers n hn)
    rwa [← CrowdRules.along_succ] at hnext

variable (hdemands : ∀ n, (run n).Demands) (hfair : keeperRules.Fair (start settings) run)
  (hserved : ∀ n ≥ first, Served (along settings run n) calls)
  (hanswers : ∀ n ≥ first, (along settings run n).tasks ≠ [] →
    (along settings run n).shared.around.answers = true)

include hdemands hfair hserved hanswers

theorem exists_succeeded_of_follows {place : Nat} (hn : first ≤ n)
    (h : Follows (along settings run n) i place j point) :
    ∃ m, Succeeded (along settings run m) i := by
  -- The leader goes on at some time, and everyone in line comes closer to the end by that.
  induction hgo : 2 * place + point.toGo using Nat.strong_induction_on
    generalizing n place j point with
  | h toGo ih =>
    obtain ⟨m, hm, hfollows, hstep⟩ :=
      hfair.exists_step (fun course => Follows course i place j point) h.stands h
        fun m hm hfollows hother => by
          rw [CrowdRules.along_succ]
          exact hfollows.next_of_other (.along settings hdemands m) (hdemands m) hother
    have hlater := Nat.le_trans hn hm
    have hnext := hfollows.next_of_leader (hserved m hlater) (hdemands m) (hanswers m hlater) hstep
    rw [← CrowdRules.along_succ] at hnext
    rcases hnext with hdone | ⟨place', j', point', hfollows', hless⟩
    · exact ⟨m + 1, hdone⟩
    · exact ih _ (hgo ▸ hless) (Nat.le_succ_of_le hlater) hfollows' rfl

theorem exists_succeeded_of_ticketOf (hn : first ≤ n)
    (h : ticketOf (along settings run n) i = some ticket) :
    ∃ m, Succeeded (along settings run m) i := by
  obtain ⟨j, point, hfollows⟩ := (hserved n hn).exists_follows h
  exact exists_succeeded_of_follows hdemands hfair hserved hanswers hn hfollows

/-- Once a proxy is ready and remains so, everybody is told so at some time. -/
theorem exists_succeeded (hn : first ≤ n) (hi : i < (along settings run n).tasks.length) :
    ∃ m, Succeeded (along settings run m) i := by
  have hin {m : Nat} {ticket : Ticket} (hm : first ≤ m)
      (hticket : ticketOf (along settings run m) i = some ticket) :
      ∃ m, Succeeded (along settings run m) i :=
    exists_succeeded_of_ticketOf hdemands hfair hserved hanswers hm hticket
  obtain ⟨standing, hstanding⟩ : ∃ standing, (along settings run n).tasks[i]? = some standing :=
    ⟨_, List.getElem?_eq_getElem hi⟩
  cases standing with
  | ended result => exact ⟨n, (hserved n hn).succeeded hstanding⟩
  | waiting call =>
    have stands : (along settings run n).task? i = some call := by
      simp [Crowd.task?, hstanding, Standing.point?]
    obtain ⟨point, rfl⟩ := (hserved n hn).flying.calls i call stands
    cases point with
    | queued ticket | asking ticket => exact hin hn (ticketOf_call stands)
    | launching => exact absurd trivial ((hserved n hn).not_isLaunching stands)
    | starting =>
      obtain ⟨m, hm, hstarting, hstep⟩ :=
        hfair.exists_step (fun course => course.task? i = some (.ensuring .starting)) stands stands
          fun m hm hstarting hother => by
            rw [CrowdRules.along_succ]
            refine keeperRules.task?_next hstarting hother ?_
            rintro ⟨k, hk⟩
            have hgivesUp := hdemands m
            rw [hk] at hgivesUp
            exact hgivesUp
      have hnext := (Flying.along settings hdemands m).next_of_starting (hdemands m) hstarting hstep
      rw [← CrowdRules.along_succ] at hnext
      rcases hnext with hdone | ⟨ticket, hticket⟩
      · exact ⟨m + 1, hdone⟩
      · exact hin (Nat.le_succ_of_le (Nat.le_trans hn hm)) hticket

theorem allSucceed : AllSucceed settings run := by
  intro n i hi
  refine exists_succeeded hdemands hfair hserved hanswers (Nat.le_max_left first n) ?_
  exact Nat.lt_of_lt_of_le hi (keeperRules.length_along _ run (Nat.le_max_right first n))

end Runs
end KeeperCourse

/-! ### One launch -/

namespace DemandPoint

/-- Which launch it was whose process is waited for. -/
def generation? : DemandPoint → Option Nat
  | .launching _ (.waiting generation _ _) => some generation
  | _ => none

theorem inside_of_generation? {point : DemandPoint} {generation : Nat}
    (h : point.generation? = some generation) : point.errand.Inside := by
  cases point with
  | launching ticket launch => cases launch <;> trivial
  | _ => cases h

end DemandPoint

/-- Whether the one who has launched the first process, and waits for it as long as
    `startupTimeout` lets him, asks it whether it is ready, and it is. -/
def KeeperMoment.Greets (moment : KeeperMoment) : Prop :=
  ∃ i wall ticket deadline resume, moment.2 = .step i wall ∧
    moment.1.task? i = some (.ensuring (.launching ticket (.waiting 1 deadline resume))) ∧
    isDue resume moment.1.now = true ∧ moment.1.shared.around.answers = true

namespace KeeperCourse

variable {course : KeeperCourse} {event : KeeperCourseEvent} {i j : Nat} {point : DemandPoint}

/-- No process is known to be ready, after a number of launches. -/
structure Pending (upkeep : Upkeep Vicinity) (launches : Nat) : Prop where
  unready : upkeep.monitor.readyUntil = none
  calls : upkeep.around.calls = launches
  generation : upkeep.monitor.generation = launches

/-- Nothing has been launched yet. -/
structure Awaited (course : KeeperCourse) : Prop where
  flying : course.Flying
  pending : Pending course.shared.upkeep 0
  unlaunched : ∀ standing ∈ course.tasks,
    ∃ point, standing = .waiting (.ensuring point) ∧ point.generation? = none

/-- One has launched the first process, and waits for it. -/
structure Underway (course : KeeperCourse) (i : Nat) : Prop where
  flying : course.Flying
  pending : Pending course.shared.upkeep 1
  unended : ∀ standing ∈ course.tasks, ∃ call, standing = .waiting call
  waits : ∃ point, course.task? i = some (.ensuring point) ∧ point.generation? = some 1

/-- Nobody waits for the first process any more. -/
structure Lost (course : KeeperCourse) : Prop where
  generation : 1 ≤ course.shared.monitor.generation
  unwaited : ∀ standing ∈ course.tasks,
    ∀ point, standing = .waiting (.ensuring point) → point.generation? ≠ some 1

/-! ### The first launch -/

theorem Pending.not_isReady {upkeep : Upkeep Vicinity} {launches : Nat}
    (h : Pending upkeep launches) (now : Instant) : upkeep.monitor.isReady now = false := by
  rw [Monitor.isReady, h.unready]
  rfl

theorem Lost.next (h : course.Lost) (hflying : course.Flying) (hevent : event.Demands) :
    Lost (keeperRules.next course event) := by
  have hmoves := hflying.next_moves hevent
  generalize keeperRules.next course event = course' at hmoves ⊢
  cases hmoves with
  | passes | changes => exact ⟨h.generation, h.unwaited⟩
  | begins =>
    refine ⟨h.generation, Crowd.forall_concat h.unwaited ?_⟩
    rintro point ⟨⟩
    exact nofun
  | moves i wall point point' upkeep stands step =>
    have hpoint := h.unwaited _ (Crowd.mem_of_task? stands) _ rfl
    constructor
    · rw [Crowd.shared_put, Keeper.monitor_withUpkeep]
      exact Nat.le_trans h.generation step.generation_le
    · refine Crowd.forall_put h.unwaited i _ ?_
      rintro found ⟨⟩
      cases step with
      | joins | joinsFirst | checks | demands => exact nofun
      | launches ticket =>
        -- There has been a launch before.
        intro hfirst
        have hnext : course.shared.upkeep.monitor.generation + 1 = 1 := Option.some.inj hfirst
        have hbefore : 1 ≤ course.shared.upkeep.monitor.generation := h.generation
        omega
      | polls => exact hpoint
  | finishes i wall point result upkeep stands step =>
    constructor
    · rw [Crowd.shared_put, Keeper.monitor_withUpkeep]
      exact Nat.le_trans h.generation step.generation_le
    · exact Crowd.forall_put h.unwaited i _ nofun

/-- As long as nothing has been launched and no proxy is ready, all there is to do is to launch
    one. -/
theorem Awaited.next (h : course.Awaited) (hevent : event.Demands)
    (hsilent : course.shared.around.answers = false)
    (hwilling : course.shared.around.refusal = none) :
    Awaited (keeperRules.next course event) ∨
      ∃ i, Underway (keeperRules.next course event) i := by
  have hflying := h.flying.next hevent
  have hmoves := h.flying.next_moves hevent
  have hunready := h.pending.not_isReady course.now
  have hunwaited {i : Nat} {point : DemandPoint}
      (stands : course.task? i = some (.ensuring point)) : point.generation? = none := by
    obtain ⟨found, hfound, hnone⟩ := h.unlaunched _ (Crowd.mem_of_task? stands)
    cases hfound
    exact hnone
  generalize keeperRules.next course event = course' at hflying hmoves ⊢
  cases hmoves with
  | passes => exact .inl ⟨hflying, h.pending, h.unlaunched⟩
  | begins =>
    exact .inl ⟨hflying, h.pending, Crowd.forall_concat h.unlaunched ⟨.starting, rfl, rfl⟩⟩
  | changes event change calls =>
    have hpending := h.pending
    exact .inl ⟨hflying, ⟨hpending.unready, (calls _).trans hpending.calls, hpending.generation⟩,
      h.unlaunched⟩
  | moves i wall point point' upkeep stands step =>
    have hpoint := hunwaited stands
    cases step with
    | joins | joinsFirst | checks | demands =>
      refine .inl ⟨hflying, ?_, Crowd.forall_put h.unlaunched i _ ⟨_, rfl, rfl⟩⟩
      rw [Crowd.shared_put, Keeper.upkeep_withUpkeep]
      exact ⟨h.pending.unready, h.pending.calls, h.pending.generation⟩
    | launches ticket =>
      refine .inr ⟨i, hflying, ?_, Crowd.forall_put (fun standing hmem => ?_) i _ ⟨_, rfl⟩, ?_⟩
      · rw [Crowd.shared_put, Keeper.upkeep_withUpkeep]
        exact ⟨h.pending.unready, congrArg (· + 1) h.pending.calls,
          congrArg (· + 1) h.pending.generation⟩
      · obtain ⟨found, hfound, -⟩ := h.unlaunched standing hmem
        exact ⟨_, hfound⟩
      · exact ⟨_, Crowd.task?_put_self stands _,
          congrArg (fun generation => some (generation + 1)) h.pending.generation⟩
    | polls => cases hpoint
  | finishes i wall point result upkeep stands step =>
    have hpoint := hunwaited stands
    cases step with
    | knows ready | learns ticket held ready => exact absurd (hunready.symm.trans ready) nofun
    | meets ticket answers => exact absurd (hsilent.symm.trans answers) nofun
    | refused ticket reason refusal => exact absurd (hwilling.symm.trans refusal) nofun
    | greets | loses => cases hpoint

namespace Underway

/-- Nobody else has the turn. -/
theorem outside (h : course.Underway i) (hji : j ≠ i)
    (stands : course.task? j = some (.ensuring point)) : ¬point.errand.Inside := by
  intro hinside
  obtain ⟨lead, hlead, hwaits⟩ := h.waits
  refine hji (h.flying.serves.exclusive ?_ ?_)
  · rw [errand_call stands]
    exact hinside
  · rw [errand_call hlead]
    exact DemandPoint.inside_of_generation? hwaits

/-- What becomes of the others when the first launch comes to an end. -/
theorem forall_put_ended (h : course.Underway i)
    {holds : Standing KeeperCall (Option KeeperReply) → Prop} (keeper : Keeper Vicinity)
    {result : Option KeeperReply} (hnew : holds (.ended result))
    (hothers : ∀ point : DemandPoint, ¬point.errand.Inside → holds (.waiting (.ensuring point))) :
    ∀ standing ∈ (course.put i keeper (.ended result)).tasks, holds standing := by
  intro standing hmem
  obtain ⟨j, hj⟩ := List.getElem?_of_mem hmem
  obtain ⟨lead, hlead, -⟩ := h.waits
  by_cases hji : j = i
  · rw [hji, Crowd.put, List.getElem?_set_self (Crowd.lt_of_task? hlead)] at hj
    rw [← Option.some.inj hj]
    exact hnew
  · rw [Crowd.put, List.getElem?_set_ne (Ne.symm hji)] at hj
    obtain ⟨call, rfl⟩ := h.unended _ (List.mem_of_getElem? hj)
    have stands : course.task? j = some call := by simp [Crowd.task?, hj, Standing.point?]
    obtain ⟨point, rfl⟩ := h.flying.calls j call stands
    exact hothers point (h.outside hji stands)

/-- The one who waits for the first process goes on waiting, or there is no one any more. -/
theorem next (h : course.Underway i) (hevent : event.Demands) :
    Underway (keeperRules.next course event) i ∨ Lost (keeperRules.next course event) := by
  have hflying := h.flying.next hevent
  have hmoves := h.flying.next_moves hevent
  have hunready := h.pending.not_isReady course.now
  obtain ⟨lead, hlead, hwaits⟩ := h.waits
  have hholder := h.flying.holder_of_inside hlead (DemandPoint.inside_of_generation? hwaits)
  generalize keeperRules.next course event = course' at hflying hmoves ⊢
  cases hmoves with
  | passes => exact .inl ⟨hflying, h.pending, h.unended, h.waits⟩
  | begins =>
    refine .inl ⟨hflying, h.pending, Crowd.forall_concat h.unended ⟨_, rfl⟩, lead, ?_, hwaits⟩
    rw [Crowd.task?_concat_of_ne (Nat.ne_of_lt (Crowd.lt_of_task? hlead))]
    exact hlead
  | changes event change calls =>
    have hpending := h.pending
    exact .inl ⟨hflying, ⟨hpending.unready, (calls _).trans hpending.calls, hpending.generation⟩,
      h.unended, h.waits⟩
  | moves j wall point point' upkeep stands step =>
    -- The one who waits asks again; anybody else is not in line yet.
    suffices Pending upkeep 1 ∧ (j = i → point'.generation? = some 1) by
      refine .inl ⟨hflying, ?_, Crowd.forall_put h.unended j _ ⟨_, rfl⟩, ?_⟩
      · rw [Crowd.shared_put, Keeper.upkeep_withUpkeep]
        exact this.1
      · by_cases hji : j = i
        · subst hji
          exact ⟨point', Crowd.task?_put_self stands _, this.2 rfl⟩
        · exact ⟨lead, (Crowd.task?_put_of_ne hji _).trans hlead, hwaits⟩
    by_cases hji : j = i
    · subst hji
      obtain rfl := KeeperCall.ensuring.inj (Option.some.inj (hlead.symm.trans stands))
      cases step with
      | polls => exact ⟨h.pending, fun _ => hwaits⟩
      | joins | joinsFirst | checks | demands | launches => cases hwaits
    · have hticket := h.flying.ticket?_eq_none hlead hholder hji stands step nofun
      refine ⟨?_, fun hsame => absurd hsame hji⟩
      cases step with
      | joins | joinsFirst => exact ⟨h.pending.unready, h.pending.calls, h.pending.generation⟩
      | checks | demands | launches | polls => cases hticket
  | finishes j wall point result upkeep stands step =>
    by_cases hji : j = i
    · subst hji
      refine .inr ⟨?_, h.forall_put_ended _ nofun fun point houtside found hfound hfirst => ?_⟩
      · rw [Crowd.shared_put, Keeper.monitor_withUpkeep]
        exact Nat.le_trans (Nat.le_of_eq h.pending.generation.symm) step.generation_le
      · cases hfound
        exact houtside (DemandPoint.inside_of_generation? hfirst)
    · have hticket := h.flying.ticket?_eq_none hlead hholder hji stands step nofun
      cases step with
      | knows ready => exact absurd (hunready.symm.trans ready) nofun
      | learns | meets | refused | greets | loses => cases hticket

/-- The first process is ready. -/
theorem next_of_greets (h : course.Underway i) (hevent : event.Demands)
    (hgreets : KeeperMoment.Greets (course, event)) :
    Served (keeperRules.next course event) 1 := by
  obtain ⟨j, wall, ticket, deadline, resume, rfl, hpoint, hdue, hanswers⟩ := hgreets
  dsimp only at hpoint hdue hanswers
  have hji : j = i := by
    by_contra hji
    exact h.outside hji hpoint trivial
  have hflying := h.flying.next hevent
  have hmoves := h.flying.next_moves hevent
  generalize keeperRules.next course (.step j wall) = course' at hflying hmoves ⊢
  cases hmoves with
  | passes _ now waits =>
    rcases (waits j _ rfl hpoint).cases_of_blocked with
      ⟨_, hqueued, -⟩ | ⟨_, _, _, _, hsame, early⟩
    · cases hqueued
    · cases hsame
      exact absurd (hdue.symm.trans early) nofun
  | moves _ _ point point' upkeep stands step =>
    obtain rfl := KeeperCall.ensuring.inj (Option.some.inj (hpoint.symm.trans stands))
    cases step with
    | polls ticket generation deadline resume due silent =>
      exact absurd (hanswers.symm.trans silent) nofun
  | finishes _ _ point result upkeep stands step =>
    obtain rfl := KeeperCall.ensuring.inj (Option.some.inj (hpoint.symm.trans stands))
    cases step with
    | greets =>
      subst hji
      refine ⟨hflying, ?_, h.forall_put_ended _ rfl fun point houtside found hfound => ?_⟩
      · rw [Crowd.shared_put, Keeper.around_withUpkeep]
        exact h.pending.calls
      · cases hfound
        intro hlaunching
        exact houtside (DemandPoint.inside_of_isLaunching hlaunching)
    | loses ticket generation deadline resume early => exact absurd (hdue.symm.trans early) nofun

end Underway

/-! ### One launch -/

/-- Whether every call that has returned has found a proxy. -/
def NoneFails (settings : MonitorSettings) (run : Nat → KeeperCourseEvent) : Prop :=
  ∀ n i result, (along settings run n).tasks[i]? = some (.ended result) →
    Succeeded (along settings run n) i

/-- Whether a proxy is ready when the first call comes, and from then on. -/
def ReadyBefore (settings : MonitorSettings) (run : Nat → KeeperCourseEvent) : Prop :=
  ∀ n, (along settings run n).tasks ≠ [] → (along settings run n).shared.around.answers = true

/-- No proxy is ready before one is launched, and one can be. The one who launches it waits for it
    until `startupTimeout` is over, and it is ready one of the times when he asks it, and from then
    on. -/
structure ReadyAfterLaunch (settings : MonitorSettings) (run : Nat → KeeperCourseEvent) (m : Nat) :
    Prop where
  silent : ∀ n, (along settings run n).shared.around.calls = 0 →
    (along settings run n).shared.around.answers = false
  willing : ∀ n, (along settings run n).shared.around.calls = 0 →
    (along settings run n).shared.around.refusal = none
  greets : KeeperMoment.Greets (along settings run m, run m)
  answers : ∀ n ≥ m, (along settings run n).shared.around.answers = true

section Runs

variable {settings : MonitorSettings} {run : Nat → KeeperCourseEvent} {m n : Nat}

theorem Lost.of_le (h : Lost (along settings run n)) (hdemands : ∀ n, (run n).Demands)
    (hn : n ≤ m) : Lost (along settings run m) := by
  induction m, hn using Nat.le_induction with
  | base => exact h
  | succ m _ ih =>
    have hnext := ih.next (.along settings hdemands m) (hdemands m)
    rwa [← CrowdRules.along_succ] at hnext

theorem Lost.not_greets (h : course.Lost) : ¬KeeperMoment.Greets (course, event) := by
  rintro ⟨i, wall, ticket, deadline, resume, -, stands, -, -⟩
  exact h.unwaited _ (Crowd.mem_of_task? stands) _ rfl rfl

namespace ReadyAfterLaunch

/-- Nothing else happens than that one launches a process, and waits for it or not. -/
theorem awaited_or_underway_or_lost (h : ReadyAfterLaunch settings run m)
    (hdemands : ∀ n, (run n).Demands) (n : Nat) :
    Awaited (along settings run n) ∨ (∃ i, Underway (along settings run n) i) ∨
      Lost (along settings run n) := by
  induction n with
  | zero => exact .inl ⟨.start settings, ⟨rfl, rfl, rfl⟩, nofun⟩
  | succ n ih =>
    rw [along, CrowdRules.along_succ]
    rcases ih with hawaited | ⟨i, hunderway⟩ | hlost
    · have hcalls := hawaited.pending.calls
      rcases hawaited.next (hdemands n) (h.silent n hcalls) (h.willing n hcalls) with
        hnext | hnext
      · exact .inl hnext
      · exact .inr (.inl hnext)
    · rcases hunderway.next (hdemands n) with hnext | hnext
      · exact .inr (.inl ⟨i, hnext⟩)
      · exact .inr (.inr hnext)
    · exact .inr (.inr (hlost.next (.along settings hdemands n) (hdemands n)))

/-- The one who has launched the first process has not stopped waiting before he finds it ready. -/
theorem awaited_or_underway (h : ReadyAfterLaunch settings run m)
    (hdemands : ∀ n, (run n).Demands) (hn : n ≤ m) :
    Awaited (along settings run n) ∨ ∃ i, Underway (along settings run n) i := by
  rcases h.awaited_or_underway_or_lost hdemands n with hawaited | hunderway | hlost
  · exact .inl hawaited
  · exact .inr hunderway
  · exact absurd h.greets (hlost.of_le hdemands hn).not_greets

theorem calls_le (h : ReadyAfterLaunch settings run m) (hdemands : ∀ n, (run n).Demands)
    (hn : n ≤ m) : (along settings run n).shared.around.calls ≤ 1 := by
  rcases h.awaited_or_underway hdemands hn with hawaited | ⟨i, hunderway⟩
  · exact Nat.le_trans (Nat.le_of_eq hawaited.pending.calls) (Nat.zero_le 1)
  · exact Nat.le_of_eq hunderway.pending.calls

/-- Nobody returns before the first process is ready. -/
theorem not_ended (h : ReadyAfterLaunch settings run m) (hdemands : ∀ n, (run n).Demands)
    (hn : n ≤ m) {result : Option KeeperReply} :
    (along settings run n).tasks[i]? ≠ some (.ended result) := by
  intro hended
  have hmem := List.mem_of_getElem? hended
  rcases h.awaited_or_underway hdemands hn with hawaited | ⟨j, hunderway⟩
  · obtain ⟨point, hpoint, -⟩ := hawaited.unlaunched _ hmem
    cases hpoint
  · obtain ⟨call, hcall⟩ := hunderway.unended _ hmem
    cases hcall

theorem served (h : ReadyAfterLaunch settings run m) (hdemands : ∀ n, (run n).Demands)
    (hn : m + 1 ≤ n) : Served (along settings run n) 1 := by
  refine served_of_le hdemands (fun n hn _ => h.answers n (Nat.le_of_succ_le hn)) ?_ hn
  rw [along, CrowdRules.along_succ]
  rcases h.awaited_or_underway hdemands (Nat.le_refl m) with hawaited | ⟨i, hunderway⟩
  · obtain ⟨i, wall, ticket, deadline, resume, -, stands, -, -⟩ := h.greets
    obtain ⟨point, hpoint, hnone⟩ := hawaited.unlaunched _ (Crowd.mem_of_task? stands)
    cases hpoint
    cases hnone
  · exact hunderway.next_of_greets (hdemands m) h.greets

end ReadyAfterLaunch

end Runs

/-- All that is asked of a monitor is to make a proxy run, as often as one likes and in whatever
    order those who ask go on. If a proxy is ready beforehand and remains so, none is launched. If
    none is, but one that is launched becomes ready in time and remains so, this is the only one.
    Either way nobody is told anything but that a proxy runs, and everybody is told so, if whoever
    has not ended may go on again and again. -/
theorem single_flight (settings : MonitorSettings) (run : Nat → KeeperCourseEvent)
    (hdemands : ∀ n, (run n).Demands) :
    (ReadyBefore settings run →
      (∀ n, (along settings run n).shared.around.calls = 0) ∧ NoneFails settings run ∧
        (keeperRules.Fair (start settings) run → AllSucceed settings run)) ∧
    ∀ m, ReadyAfterLaunch settings run m →
      (∀ n, (along settings run n).shared.around.calls ≤ 1) ∧
        (∀ n > m, (along settings run n).shared.around.calls = 1) ∧ NoneFails settings run ∧
        (keeperRules.Fair (start settings) run → AllSucceed settings run) := by
  constructor
  · intro hready
    have hstart : Served (along settings run 0) 0 := ⟨.start settings, rfl, by rintro _ ⟨⟩⟩
    have hserved (n : Nat) (hn : n ≥ 0) : Served (along settings run n) 0 :=
      served_of_le hdemands (fun n _ => hready n) hstart hn
    exact ⟨fun n => (hserved n (Nat.zero_le n)).calls,
      fun n i result => (hserved n (Nat.zero_le n)).succeeded,
      fun hfair => allSucceed hdemands hfair hserved fun n _ => hready n⟩
  · intro m h
    have hserved (n : Nat) (hn : n ≥ m + 1) := h.served hdemands hn
    refine ⟨fun n => ?_, fun n hn => (hserved n hn).calls, fun n i result hended => ?_,
      fun hfair => allSucceed hdemands hfair hserved fun n hn _ =>
        h.answers n (Nat.le_of_succ_le hn)⟩
    · rcases Nat.lt_or_ge m n with hlt | hle
      · exact Nat.le_of_eq (hserved n hlt).calls
      · exact h.calls_le hdemands hle
    · rcases Nat.lt_or_ge m n with hlt | hle
      · exact (hserved n hlt).succeeded hended
      · exact absurd hended (h.not_ended hdemands hle)

/-! ### Two calls -/

/-- Two ask for a proxy, and one is ready already. -/
def readyEvents : List KeeperCourseEvent :=
  [.occur (.answers true), .begin .ensureRunning, .begin .ensureRunning, .step 0 0, .step 1 0,
    .step 0 0, .step 1 0]

/-- Two ask for a proxy, and the one that is launched becomes ready. -/
def launchEvents : List KeeperCourseEvent :=
  [.begin .ensureRunning, .begin .ensureRunning, .step 0 0, .step 1 0, .step 0 0, .step 0 0,
    .occur (.answers true), .step 0 0, .step 1 0, .step 1 0]

theorem readyBefore_readyEvents : ReadyBefore {} (.thenNothing readyEvents) := fun n =>
  CrowdRules.forall_along_thenNothing
    (fun course : KeeperCourse => course.tasks ≠ [] → course.shared.around.answers = true)
    (Nat.zero_le _) (by decide +kernel) n (Nat.zero_le n)

theorem readyAfterLaunch_launchEvents :
    ReadyAfterLaunch { readinessTtl := 0 } (.thenNothing launchEvents) 7 where
  silent := fun n => CrowdRules.forall_along_thenNothing
    (fun course : KeeperCourse =>
      course.shared.around.calls = 0 → course.shared.around.answers = false)
    (Nat.zero_le _) (by decide +kernel) n (Nat.zero_le n)
  willing := fun n => CrowdRules.forall_along_thenNothing
    (fun course : KeeperCourse =>
      course.shared.around.calls = 0 → course.shared.around.refusal = none)
    (Nat.zero_le _) (by decide +kernel) n (Nat.zero_le n)
  greets := ⟨0, 0, 0, Duration.ofSecs 10, none, rfl, rfl, rfl, rfl⟩
  answers := CrowdRules.forall_along_thenNothing
    (fun course : KeeperCourse => course.shared.around.answers = true) (by decide)
    (by decide +kernel)

theorem single_flight_two :
    ((∀ n, (along {} (.thenNothing readyEvents) n).shared.around.calls = 0) ∧
      AllSucceed {} (.thenNothing readyEvents)) ∧
    (∀ n > 7, (along { readinessTtl := 0 } (.thenNothing launchEvents) n).shared.around.calls = 1) ∧
      AllSucceed { readinessTtl := 0 } (.thenNothing launchEvents) := by
  constructor
  · obtain ⟨hcalls, -, hall⟩ := (single_flight {} (.thenNothing readyEvents)
      (CrowdEvent.forall_thenNothing (by simp [readyEvents, KeeperCourseEvent.Demands])
        trivial)).1 readyBefore_readyEvents
    exact ⟨hcalls, hall (CrowdRules.fair_thenNothing (by decide +kernel))⟩
  · obtain ⟨-, hcalls, -, hall⟩ := (single_flight { readinessTtl := 0 } (.thenNothing launchEvents)
      (CrowdEvent.forall_thenNothing (by simp [launchEvents, KeeperCourseEvent.Demands])
        trivial)).2 7 readyAfterLaunch_launchEvents
    exact ⟨hcalls, hall (CrowdRules.fair_thenNothing (by decide +kernel))⟩

end KeeperCourse

end SymbolSearch
