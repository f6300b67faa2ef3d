import SymbolSearch.Proofs.Monitor.Course

/-!
# Proxies that are left behind

A monitor is to have one proxy at a time: it launches another one only when all it has launched
before have exited or been killed.

* `Affairs.Sound` — what holds of a monitor and all who work on it: one at a time has the turn, and
  who gets rid of a proxy before launching another one leaves none behind.
* `Outline.Supervised` — the monitor looks after every process that it has launched and that is not
  gone.
* `KeeperCourse.alone_iff` — a monitor keeps to one proxy exactly if nobody who makes a proxy run
  launches one beside a process that the monitor still looks after.
* `KeeperCourse.not_forall_alone` — someone does, if the proxy is silent for a moment.
-/

namespace SymbolSearch

/-! ### The line for the turn -/

namespace KeeperWorker

/-- Everyone's number. -/
def number : KeeperWorker → Nat
  | .task .rounds => 0
  | .task (.watch i) => 2 * i + 1
  | .call i => 2 * i + 2

/-- The one with a number. -/
def ofNumber : Nat → KeeperWorker
  | 0 => .task .rounds
  | n + 1 => if n % 2 = 0 then .task (.watch (n / 2)) else .call (n / 2)

@[simp]
theorem ofNumber_number (worker : KeeperWorker) : ofNumber worker.number = worker := by
  match worker with
  | .task .rounds => rfl
  | .task (.watch i) => simp [number, ofNumber]
  | .call i =>
    have hodd : (2 * i + 1) % 2 ≠ 0 := by omega
    have hhalf : (2 * i + 1) / 2 = i := by omega
    simp [number, ofNumber, hhalf]

theorem number_ofNumber (n : Nat) : (ofNumber n).number = n := by
  cases n with
  | zero => rfl
  | succ n =>
    by_cases heven : n % 2 = 0
    · simp only [ofNumber, if_pos heven, number]
      omega
    · simp only [ofNumber, if_neg heven, number]
      omega

end KeeperWorker

namespace Affairs

variable {affairs : Affairs} {worker other : KeeperWorker} {outline : Outline} {errand : Errand}
  {ticket : Ticket}

@[simp]
theorem outline_put : (affairs.put worker outline errand).outline = outline := rfl

@[simp]
theorem errands_put_self : (affairs.put worker outline errand).errands worker = errand :=
  Function.update_self ..

theorem errands_put_of_ne (h : other ≠ worker) :
    (affairs.put worker outline errand).errands other = affairs.errands other :=
  Function.update_of_ne h ..

theorem put_put (outline' : Outline) (errand' : Errand) :
    (affairs.put worker outline errand).put worker outline' errand' =
      affairs.put worker outline' errand' := by
  simp [put]

/-- Those who wait for the turn or have it have tickets of their own, and whoever works as the one
    who has the turn has it. -/
def InLine (affairs : Affairs) : Prop :=
  affairs.outline.turns.Serves (fun n => (affairs.errands (.ofNumber n)).ticket?)
    fun n => (affairs.errands (.ofNumber n)).Inside

namespace InLine

theorem eq_of_inside (h : affairs.InLine) (hworker : (affairs.errands worker).Inside)
    (hother : (affairs.errands other).Inside) : worker = other := by
  have hnumber : worker.number = other.number := by
    refine Turns.Serves.exclusive h ?_ ?_
    · simpa using hworker
    · simpa using hother
  rw [← worker.ofNumber_number, hnumber, other.ofNumber_number]

/-- Who is not the one that goes on has another number. -/
theorem ne_of_ne_number {n : Nat} (h : n ≠ worker.number) : KeeperWorker.ofNumber n ≠ worker := by
  rintro rfl
  exact h (KeeperWorker.number_ofNumber n).symm

/-- Someone goes on without leaving the line or getting in it. -/
theorem keep (h : affairs.InLine) (hturns : outline.turns = affairs.outline.turns)
    (hticket : errand.ticket? = (affairs.errands worker).ticket?)
    (hinside : errand.Inside → (affairs.errands worker).Inside ∨
      ∃ ticket, (affairs.errands worker).ticket? = some ticket ∧
        affairs.outline.turns.holder = some ticket) :
    (affairs.put worker outline errand).InLine := by
  unfold InLine
  rw [outline_put, hturns]
  refine Turns.Serves.keep h (fun n => ?_) fun n hn => ?_
  · by_cases hworker : KeeperWorker.ofNumber n = worker
    · rw [hworker, errands_put_self, hticket]
    · rw [errands_put_of_ne hworker]
  · by_cases hworker : KeeperWorker.ofNumber n = worker
    · rw [hworker, errands_put_self] at hn
      rw [hworker]
      exact hinside hn
    · rw [errands_put_of_ne hworker] at hn
      exact .inl hn

/-- Someone gets in line. -/
theorem join (h : affairs.InLine) (hturns : outline.turns = affairs.outline.turns.join.2)
    (hticket : errand.ticket? = some affairs.outline.turns.join.1) (hinside : ¬errand.Inside) :
    (affairs.put worker outline errand).InLine := by
  unfold InLine
  rw [outline_put, hturns]
  refine Turns.Serves.join (i := worker.number) h ?_ (fun n hn => ?_) fun n hn => ?_
  · simpa using hticket
  · rw [errands_put_of_ne (ne_of_ne_number hn)]
  · have hne : n ≠ worker.number := by
      rintro rfl
      simp [hinside] at hn
    rw [errands_put_of_ne (ne_of_ne_number hne)] at hn
    exact ⟨hne, hn⟩

/-- Someone leaves the line, or gives up the turn. -/
theorem leave (h : affairs.InLine) (hticket : (affairs.errands worker).ticket? = some ticket)
    (hturns : outline.turns = affairs.outline.turns.leave ticket) :
    (affairs.put worker outline .idle).InLine := by
  unfold InLine
  rw [outline_put, hturns]
  refine Turns.Serves.leave (i := worker.number) h ?_ ?_ (fun n hn => ?_) fun n hn => ?_
  · simpa using hticket
  · simp [Errand.ticket?]
  · rw [errands_put_of_ne (ne_of_ne_number hn)]
  · have hne : n ≠ worker.number := by
      rintro rfl
      simp [Errand.Inside] at hn
    rw [errands_put_of_ne (ne_of_ne_number hne)] at hn
    exact ⟨hne, hn⟩

/-- Someone gives up. -/
theorem drop (h : affairs.InLine) (worker : KeeperWorker)
    (hturns : outline.turns = (affairs.outline.drop (affairs.errands worker)).turns) :
    (affairs.put worker outline .idle).InLine := by
  cases hticket : (affairs.errands worker).ticket? with
  | none =>
    rw [Outline.drop, hticket] at hturns
    exact h.keep hturns hticket.symm False.elim
  | some ticket =>
    rw [Outline.drop, hticket] at hturns
    exact h.leave hticket hturns

/-- Someone gets in line where nobody is, and has the turn at once. -/
theorem joinFirst (h : affairs.InLine) (hturns : outline.turns = affairs.outline.turns.join.2)
    (hticket : errand.ticket? = some affairs.outline.turns.join.1)
    (hheld : affairs.outline.turns.join.2.holder = some affairs.outline.turns.join.1) :
    (affairs.put worker outline errand).InLine := by
  have hjoined : (affairs.put worker outline (.queued affairs.outline.turns.join.1 false)).InLine :=
    h.join hturns rfl id
  generalize hqueued : affairs.put worker outline _ = queued at hjoined
  have hmine : (queued.errands worker).ticket? = some affairs.outline.turns.join.1 := by
    rw [← hqueued, errands_put_self]
    rfl
  have hturn : queued.outline.turns.holder = some affairs.outline.turns.join.1 := by
    rw [← hqueued, outline_put, hturns, hheld]
  have henters : (queued.put worker outline errand).InLine :=
    hjoined.keep (by rw [← hqueued]; rfl) (hticket.trans hmine.symm) fun _ => .inr ⟨_, hmine, hturn⟩
  rwa [← hqueued, put_put] at henters

/-- Someone begins to launch another proxy. -/
theorem restarts {begun : Outline} (h : affairs.InLine) (hbegins : Restarts begun outline errand)
    (hturns : begun.turns = affairs.outline.turns) :
    (affairs.put worker outline errand).InLine := by
  cases hbegins with
  | waits => exact h.join (by rw [← hturns]; rfl) (by rw [← hturns]; rfl) id
  | takesTurn held =>
    exact h.joinFirst (by rw [← hturns]; rfl) (by rw [← hturns]; rfl) (by rw [← hturns]; exact held)

theorem moves (h : affairs.InLine)
    (hmoves : ErrandMoves affairs.outline (affairs.errands worker) outline errand) :
    (affairs.put worker outline errand).InLine := by
  generalize hold : affairs.errands worker = old at hmoves
  -- Who stays in line with the turn stays inside.
  have hstays (hturns : outline.turns = affairs.outline.turns)
      (hticket : errand.ticket? = old.ticket?)
      (hinside : errand.Inside → old.Inside) : (affairs.put worker outline errand).InLine :=
    h.keep hturns (hold ▸ hticket) fun hnew => .inl (hold ▸ hinside hnew)
  have henters {ticket : Ticket} (hturns : outline.turns = affairs.outline.turns)
      (hticket : errand.ticket? = old.ticket?) (hmine : old.ticket? = some ticket)
      (hheld : affairs.outline.turns.holder = some ticket) :
      (affairs.put worker outline errand).InLine :=
    h.keep hturns (hold ▸ hticket) fun _ => .inr ⟨ticket, hold ▸ hmine, hheld⟩
  cases hmoves with
  | stays => exact hstays rfl rfl id
  | drops => exact h.drop worker (hold ▸ rfl)
  | asks | hears => exact hstays rfl rfl id
  | joins => exact h.join rfl rfl id
  | joinsFirst sound held => exact h.joinFirst rfl rfl held
  | checks ticket sound held => exact henters rfl rfl rfl held
  | clears ticket held => exact henters rfl rfl rfl held
  | meets old ticket stands =>
    have hticket : (affairs.errands worker).ticket? = some ticket := by
      rcases stands with rfl | rfl <;> rw [hold] <;> rfl
    exact h.leave hticket rfl
  | demands ticket | cleared ticket | launches ticket => exact hstays rfl rfl id
  | endures old stands | givesUp old stands =>
    rcases stands with rfl | rfl <;> exact hstays rfl rfl id
  | restarts old errand' outline' now stands left begins => exact h.restarts begins rfl
  | forces errand' outline' now begins => exact h.restarts begins rfl
  | refused ticket | loses ticket =>
    have hticket : (affairs.errands worker).ticket? = some ticket := by
      rw [hold]
      rfl
    exact h.leave hticket rfl

end InLine

/-! ### Processes -/

end Affairs

namespace Outline

variable {outline outline' : Outline} {errand errand' : Errand}

/-- The process that the monitor looks after is one that it has launched and has not killed. -/
structure Kept (outline : Outline) : Prop where
  launched : ∀ child, outline.child = some child → child.process < outline.around.launched
  spared : ∀ child, outline.child = some child → child.process ∉ outline.around.killed
  known : ∀ process ∈ outline.around.killed, process < outline.around.launched

/-- The monitor looks after every process that it has launched and that is not gone. -/
def Supervised (outline : Outline) : Prop :=
  ∀ process < outline.around.launched, outline.around.Gone process ∨
    ∃ child, outline.child = some child ∧ child.process = process

theorem dismiss_of_none (h : outline.child = none) :
    outline.dismiss = { outline with isRunning := false } := by
  simp [dismiss, h]

theorem dismiss_of_some {child : Child} (h : outline.child = some child) :
    outline.dismiss = { outline with
      isRunning := false
      child := none
      around := { outline.around with killed := child.process :: outline.around.killed } } := by
  simp [dismiss, h, Surroundings.free]

theorem calls_dismiss (outline : Outline) :
    outline.dismiss.around.calls = outline.around.calls := by
  cases hchild : outline.child <;> simp [dismiss, hchild, Surroundings.free]

theorem around_dismiss_congr (hchild : outline.child = outline'.child)
    (haround : outline.around = outline'.around) :
    outline.dismiss.around = outline'.dismiss.around := by
  simp only [dismiss, hchild, haround]

theorem Kept.dismiss (h : outline.Kept) : outline.dismiss.Kept := by
  cases hchild : outline.child with
  | none =>
    rw [dismiss_of_none hchild]
    exact ⟨h.launched, h.spared, h.known⟩
  | some child =>
    rw [dismiss_of_some hchild]
    exact ⟨nofun, nofun, List.forall_mem_cons.mpr ⟨h.launched child hchild, h.known⟩⟩

theorem Supervised.dismiss (h : outline.Supervised) : outline.dismiss.Supervised := by
  cases hchild : outline.child with
  | none =>
    rw [dismiss_of_none hchild]
    exact h
  | some child =>
    rw [dismiss_of_some hchild]
    intro process hlt
    rcases h process hlt with (hexited | hkilled) | ⟨found, hfound, hprocess⟩
    · exact .inl (.inl hexited)
    · exact .inl (.inr (List.mem_cons_of_mem _ hkilled))
    · obtain rfl : child = found := Option.some.inj (hchild.symm.trans hfound)
      exact .inl (.inr (hprocess ▸ List.mem_cons_self))

/-- Nothing else matters to processes. -/
theorem Kept.of_same (h : outline.Kept) (hchild : outline'.child = outline.child)
    (hlaunched : outline'.around.launched = outline.around.launched)
    (hkilled : outline'.around.killed = outline.around.killed) : outline'.Kept := by
  constructor
  · rw [hchild, hlaunched]
    exact h.launched
  · rw [hchild, hkilled]
    exact h.spared
  · rw [hkilled, hlaunched]
    exact h.known

@[inherit_doc Kept.of_same]
theorem Supervised.of_same (h : outline.Supervised) (hchild : outline'.child = outline.child)
    (hlaunched : outline'.around.launched = outline.around.launched)
    (hkilled : outline'.around.killed = outline.around.killed)
    (hexited : ∀ process ∈ outline.around.exited, process ∈ outline'.around.exited) :
    outline'.Supervised := by
  intro process hlt
  rw [hlaunched] at hlt
  rcases h process hlt with (hgone | hgone) | hfound
  · exact .inl (.inl (hexited process hgone))
  · exact .inl (.inr (hkilled ▸ hgone))
  · exact .inr (hchild ▸ hfound)

end Outline

/-- What a move does to processes. -/
inductive ProcessMoves (outline : Outline) : Errand → Outline → Prop where
  | nothing (errand : Errand) (outline' : Outline) (child : outline'.child = outline.child)
      (around : outline'.around = outline.around) : ProcessMoves outline errand outline'
  | kills (errand : Errand) (outline' : Outline) (child : outline'.child = none)
      (around : outline'.around = outline.dismiss.around) : ProcessMoves outline errand outline'
  | refused (ticket : Ticket) (isDemanded : Bool) (outline' : Outline)
      (child : outline'.child = outline.child)
      (around : outline'.around = { outline.around with calls := outline.around.calls + 1 }) :
      ProcessMoves outline (.spawning ticket isDemanded) outline'
  | launches (ticket : Ticket) (isDemanded : Bool) (generation : Nat) (outline' : Outline)
      (child : outline'.child = some ⟨generation, outline.around.launched⟩)
      (around : outline'.around = { outline.around with
        calls := outline.around.calls + 1
        launched := outline.around.launched + 1 }) :
      ProcessMoves outline (.spawning ticket isDemanded) outline'

section Processes

variable {outline outline' begun : Outline} {errand errand' : Errand}

theorem Outline.processes_drop (outline : Outline) (errand : Errand) :
    (outline.drop errand).child = outline.child ∧
      (outline.drop errand).around = outline.around := by
  unfold drop
  split <;> exact ⟨rfl, rfl⟩

theorem Outline.Supervised.drop (h : outline.Supervised) (errand : Errand) :
    (outline.drop errand).Supervised := by
  obtain ⟨hchild, haround⟩ := outline.processes_drop errand
  exact h.of_same hchild (by rw [haround]) (by rw [haround]) (by rw [haround]; exact fun _ => id)

theorem Restarts.processes (h : Restarts begun outline' errand') (errand : Errand)
    (hchild : begun.child = outline.child) (haround : begun.around = outline.around) :
    ProcessMoves outline errand outline' := by
  cases h with
  | waits => exact .nothing _ _ hchild haround
  | takesTurn held =>
    have hjoined : begun.join.around = outline.around := haround
    exact .kills _ _ rfl (Outline.around_dismiss_congr hchild hjoined)

theorem ErrandMoves.processes (h : ErrandMoves outline errand outline' errand') :
    ProcessMoves outline errand outline' := by
  cases h with
  | stays | asks | joins | joinsFirst | checks | hears | meets | demands | cleared | endures
  | givesUp => exact .nothing _ _ rfl rfl
  | drops errand =>
    obtain ⟨hchild, haround⟩ := outline.processes_drop errand
    exact .nothing _ _ hchild haround
  | clears ticket held => exact .kills _ _ rfl rfl
  | loses ticket => exact .kills _ _ rfl rfl
  | restarts errand errand' outline' now stands left begins => exact begins.processes _ rfl rfl
  | forces errand' outline' now begins => exact begins.processes _ rfl rfl
  | refused ticket isDemanded => exact .refused _ _ _ rfl rfl
  | launches ticket isDemanded generation => exact .launches _ _ generation _ rfl rfl

theorem Outline.Kept.moves (h : outline.Kept) (hmoves : ProcessMoves outline errand outline') :
    outline'.Kept := by
  cases hmoves with
  | nothing errand outline' child around => exact h.of_same child (by rw [around]) (by rw [around])
  | kills errand outline' child around =>
    exact h.dismiss.of_same child (by rw [around]) (by rw [around])
  | refused ticket isDemanded outline' child around =>
    exact h.of_same child (by rw [around]) (by rw [around])
  | launches ticket isDemanded generation outline' child around =>
    have hnew (child' : Child) (hchild' : outline'.child = some child') :
        child'.process = outline.around.launched := by
      obtain rfl := Option.some.inj (child.symm.trans hchild')
      rfl
    constructor
    · intro child' hchild'
      rw [hnew child' hchild', around]
      exact Nat.lt_succ_self _
    · intro child' hchild' hkilled
      rw [hnew child' hchild', around] at hkilled
      exact Nat.lt_irrefl _ (h.known _ hkilled)
    · intro process hkilled
      rw [around] at hkilled ⊢
      exact Nat.lt_succ_of_lt (h.known process hkilled)

/-- Nothing is left behind unless a process is launched beside another one. -/
theorem Outline.Supervised.moves (h : outline.Supervised)
    (hmoves : ProcessMoves outline errand outline')
    (halone : outline'.around.calls ≠ outline.around.calls →
      ∀ child, outline.child = some child → child.process ∈ outline.around.exited) :
    outline'.Supervised := by
  cases hmoves with
  | nothing errand outline' child around =>
    exact h.of_same child (by rw [around]) (by rw [around]) (by rw [around]; exact fun _ => id)
  | kills errand outline' child around =>
    exact h.dismiss.of_same child (by rw [around]) (by rw [around])
      (by rw [around]; exact fun _ => id)
  | refused ticket isDemanded outline' child around =>
    exact h.of_same child (by rw [around]) (by rw [around]) (by rw [around]; exact fun _ => id)
  | launches ticket isDemanded generation outline' child around =>
    have hcalls : outline'.around.calls ≠ outline.around.calls := by
      rw [around]
      exact Nat.succ_ne_self _
    intro process hlt
    rw [around] at hlt ⊢
    rcases Nat.lt_succ_iff_lt_or_eq.mp hlt with hlt | hnew
    · rcases h process hlt with hgone | ⟨old, hold, hprocess⟩
      · exact .inl hgone
      · exact .inl (.inl (hprocess ▸ halone hcalls old hold))
    · exact .inr ⟨_, child, hnew.symm⟩

end Processes

/-! ### What holds all the time -/

/-- Whether one has got rid of the proxy there was, and is to launch another one. -/
def Errand.HasCleared : Errand → Prop
  | .clearing _ | .spawning _ false => True
  | _ => False

namespace Affairs

variable {affairs affairs' : Affairs} {worker : KeeperWorker} {outline : Outline} {errand : Errand}

/-- What holds of a monitor and all who work on it. -/
structure Sound (affairs : Affairs) : Prop where
  line : affairs.InLine
  kept : affairs.outline.Kept
  cleared : ∀ worker, (affairs.errands worker).HasCleared → affairs.outline.child = none

theorem inside_of_hasCleared (h : errand.HasCleared) : errand.Inside := by
  unfold Errand.HasCleared at h
  split at h
  · trivial
  · trivial
  · exact h.elim

/-- Who gets rid of a proxy has nothing to look after then. -/
theorem hasCleared_moves {outline' : Outline} {errand' : Errand}
    (hmoves : ErrandMoves outline errand outline' errand') (hnew : errand'.HasCleared) :
    outline'.child = none ∨ errand.HasCleared ∧ outline'.child = outline.child := by
  cases hmoves with
  | stays => exact .inr ⟨hnew, rfl⟩
  | clears => exact .inl rfl
  | cleared => exact .inr ⟨trivial, rfl⟩
  | restarts _ _ _ _ _ _ begins | forces _ _ _ begins =>
    cases begins with
    | waits => exact hnew.elim
    | takesTurn => exact .inl rfl
  | _ => exact hnew.elim

namespace Sound

theorem works (h : affairs.Sound)
    (hmoves : ErrandMoves affairs.outline (affairs.errands worker) outline errand) :
    (affairs.put worker outline errand).Sound where
  line := h.line.moves hmoves
  kept := h.kept.moves hmoves.processes
  cleared := by
    intro other hother
    rw [outline_put]
    by_cases hself : other = worker
    · subst hself
      rw [errands_put_self] at hother
      rcases hasCleared_moves hmoves hother with hnone | ⟨hold, hsame⟩
      · exact hnone
      · exact hsame.trans (h.cleared other hold)
    · rw [errands_put_of_ne hself] at hother
      have hnone := h.cleared other hother
      generalize hold : affairs.errands worker = old at hmoves
      cases hmoves.processes with
      | nothing old outline child around => exact child.trans hnone
      | kills old outline child around => exact child
      | refused ticket isDemanded outline child around => exact child.trans hnone
      | launches ticket isDemanded generation outline child around =>
        -- Only one at a time has the turn, and launches.
        have hinside : (affairs.errands worker).Inside := by
          rw [hold]
          trivial
        exact absurd (h.line.eq_of_inside (inside_of_hasCleared hother) hinside) hself

/-- Nobody minds when the process of the monitor is killed. -/
theorem dismiss (h : affairs.Sound) :
    Sound { affairs with outline := affairs.outline.dismiss } where
  line := h.line
  kept := h.kept.dismiss
  cleared := fun _ _ => rfl

theorem moves {worker? : Option KeeperWorker} (h : affairs.Sound)
    (hmoves : AffairsMoves affairs worker? affairs') : affairs'.Sound := by
  cases hmoves with
  | rests => exact h
  | begins worker errand new early =>
    have hticket : errand.ticket? = (affairs.errands worker).ticket? := by
      rw [new]
      rcases early with rfl | rfl <;> rfl
    have hidle : ¬errand.Inside := by
      rcases early with rfl | rfl <;> exact id
    refine ⟨h.line.keep rfl hticket fun hinside => absurd hinside hidle, h.kept, ?_⟩
    intro other hother
    by_cases hself : other = worker
    · subst hself
      rw [errands_put_self] at hother
      exact absurd (inside_of_hasCleared hother) hidle
    · rw [errands_put_of_ne hself] at hother
      exact h.cleared other hother
  | works worker outline errand moves => exact h.works moves
  | drops worker => exact h.works (.drops (affairs.errands worker))
  | halts worker => exact (h.works (.drops (affairs.errands worker))).dismiss
  | changes around calls launched killed exited =>
    exact ⟨h.line, h.kept.of_same rfl launched killed, h.cleared⟩

end Sound

/-- Nothing is left behind unless somebody launches a process beside another one. -/
theorem supervised_moves {worker? : Option KeeperWorker} (h : affairs.outline.Supervised)
    (hmoves : AffairsMoves affairs worker? affairs')
    (halone : affairs'.outline.around.calls ≠ affairs.outline.around.calls →
      ∀ child, affairs.outline.child = some child → child.process ∈ affairs.outline.around.exited) :
    affairs'.outline.Supervised := by
  cases hmoves with
  | rests | begins => exact h
  | works worker outline errand moves => exact h.moves moves.processes halone
  | drops worker => exact h.drop _
  | halts worker => exact (h.drop _).dismiss
  | changes around calls launched killed exited => exact h.of_same rfl launched killed exited

/-- Only who is to launch a process tries to, and only once. -/
theorem calls_cases {worker? : Option KeeperWorker}
    (hmoves : AffairsMoves affairs worker? affairs') :
    affairs'.outline.around.calls = affairs.outline.around.calls ∨
      affairs'.outline.around.calls = affairs.outline.around.calls + 1 ∧
        ∃ worker ticket isDemanded, worker? = some worker ∧
          affairs.errands worker = .spawning ticket isDemanded := by
  cases hmoves with
  | rests | begins => exact .inl rfl
  | changes around calls launched killed exited => exact .inl calls
  | drops worker => exact .inl (by rw [outline_put, (affairs.outline.processes_drop _).2])
  | halts worker =>
    refine .inl ?_
    rw [outline_put, Outline.calls_dismiss, (affairs.outline.processes_drop _).2]
  | works worker outline errand moves =>
    generalize hold : affairs.errands worker = old at moves
    cases moves.processes with
    | nothing old outline child around => exact .inl (by rw [outline_put, around])
    | kills old outline child around =>
      exact .inl (by rw [outline_put, around, Outline.calls_dismiss])
    | refused ticket isDemanded outline child around
    | launches ticket isDemanded generation outline child around =>
      exact .inr ⟨by rw [outline_put, around], worker, ticket, isDemanded, rfl, hold⟩

theorem calls_moves {worker? : Option KeeperWorker} (hmoves : AffairsMoves affairs worker? affairs')
    (hcalls : affairs'.outline.around.calls ≠ affairs.outline.around.calls) :
    ∃ worker ticket isDemanded, worker? = some worker ∧
      affairs.errands worker = .spawning ticket isDemanded :=
  ((calls_cases hmoves).resolve_left hcalls).2

end Affairs

/-! ### Courses -/

/-- Whether somebody who makes a proxy run, and has not found one that is ready, launches one. -/
def KeeperMoment.DemandsLaunch (moment : KeeperMoment) : Prop :=
  ∃ i wall ticket, moment.2 = .step i wall ∧
    moment.1.task? i = some (.ensuring (.launching ticket .spawning))

/-- Whether whoever makes a proxy run launches one only when the process that the monitor looks
    after has exited, if there is one. -/
def KeeperMoment.DemandsRightly (moment : KeeperMoment) : Prop :=
  moment.DemandsLaunch → ∀ child, moment.1.shared.monitor.child = some child →
    child.process ∈ moment.1.shared.around.exited

namespace KeeperCourse

/-- Whether all processes that the monitor has launched have exited or been killed. -/
def AllGone (course : KeeperCourse) : Prop :=
  ∀ process < course.shared.around.launched, course.shared.around.Gone process

/-- Whether the monitor looks after every process that it has launched and that is not gone. -/
def AllSupervised (course : KeeperCourse) : Prop :=
  ∀ process < course.shared.around.launched, course.shared.around.Gone process ∨
    ∃ child, course.shared.monitor.child = some child ∧ child.process = process

variable {course : KeeperCourse} {event : KeeperCourseEvent} {worker : KeeperWorker}
  {settings : MonitorSettings} {events : List KeeperCourseEvent}

theorem sound_after (settings : MonitorSettings) (events : List KeeperCourseEvent) :
    (affairs (keeperRules.after (start settings) events)).Sound := by
  induction events using List.reverseRecOn with
  | nil =>
    have hidle (worker : KeeperWorker) : errand (start settings) worker = .idle := by
      rcases worker with i | i | _ <;> rfl
    constructor
    · refine Turns.Serves.nobody _ (fun n => ?_) fun n => ?_
      · show (errand (start settings) _).ticket? = none
        rw [hidle]
        rfl
      · show ¬(errand (start settings) _).Inside
        rw [hidle]
        exact id
    · exact ⟨nofun, nofun, nofun⟩
    · exact fun _ _ => rfl
  | append_singleton events event ih =>
    rw [CrowdRules.after_concat]
    exact ih.moves (next_affairs _ event)

/-- Only who makes a proxy run launches one without getting rid of the one there is. -/
theorem exists_of_spawning {ticket : Ticket} (h : errand course worker = .spawning ticket true) :
    ∃ i, worker = .call i ∧ course.task? i = some (.ensuring (.launching ticket .spawning)) := by
  rcases errand_cases course worker with
    hold | hold | ⟨relaunch, hold⟩ | ⟨i, point, hi, hstands, hold⟩ | ⟨i, hi, hstands, hold⟩ <;>
    rw [h] at hold
  · cases hold
  · cases hold
  · cases relaunch with
    | launching held launch => cases launch <;> cases hold
    | _ => cases hold
  · refine ⟨i, hi, ?_⟩
    cases point with
    | launching held launch =>
      cases launch with
      | spawning =>
        obtain rfl : ticket = held := (Errand.spawning.inj hold).1
        exact hstands
      | waiting => cases hold
    | _ => cases hold
  · cases hold

/-- Who is to launch a process does not wait, and tries to. -/
theorem exists_of_launch (now : Instant) (upkeep : Upkeep Vicinity) (ticket : Ticket) :
    ∃ upkeep' progress,
      (DemandPoint.launching ticket .spawning).step .free now upkeep = (upkeep', progress) ∧
        progress ≠ .blocked ∧ upkeep'.around.calls = upkeep.around.calls + 1 := by
  cases hrefusal : upkeep.around.refusal with
  | none =>
    refine ⟨_, _, rfl, ?_, ?_⟩ <;>
      simp [LaunchPoint.step, Surroundings.free, hrefusal, Upkeep.update]
  | some reason =>
    refine ⟨_, _, rfl, ?_, ?_⟩ <;>
      simp [LaunchPoint.step, Surroundings.free, hrefusal, Upkeep.leave, Upkeep.update]

theorem callsSpawner_of_demandsLaunch (h : KeeperMoment.DemandsLaunch (course, event)) :
    KeeperMoment.CallsSpawner (course, event) := by
  obtain ⟨i, wall, ticket, hevent, hi⟩ := h
  dsimp only at hevent hi
  subst hevent
  obtain ⟨upkeep, progress, hlaunch, hmoves, hcalls⟩ :=
    exists_of_launch course.now course.shared.upkeep ticket
  have hstep :
      keeperRules.step course.now wall (.ensuring (.launching ticket .spawning)) course.shared =
      (course.shared.withUpkeep upkeep, progress.map .ensuring .launched) := by
    show (course.shared.withStep _).map _ _ = _
    rw [hlaunch]
    rfl
  have hne : upkeep.around.calls ≠ course.shared.upkeep.around.calls := by
    rw [hcalls]
    exact Nat.succ_ne_self _
  unfold KeeperMoment.CallsSpawner
  cases progress with
  | blocked => exact absurd rfl hmoves
  | moved point =>
    rw [keeperRules.next_of_moved hi hstep, Crowd.shared_put, Keeper.around,
      Keeper.upkeep_withUpkeep]
    exact hne
  | finished result =>
    rw [keeperRules.next_of_finished hi hstep, Crowd.shared_put, Keeper.around,
      Keeper.upkeep_withUpkeep]
    exact hne

/-- Somebody launches a process only after the one there was has been dealt with, or because a proxy
    is asked for. -/
theorem child_of_spawning (hsound : (affairs course).Sound)
    (hworker : KeeperWorker.of? event = some worker) {ticket : Ticket} {isDemanded : Bool}
    (hspawning : errand course worker = .spawning ticket isDemanded) :
    course.shared.monitor.child = none ∨ KeeperMoment.DemandsLaunch (course, event) := by
  cases isDemanded with
  | false =>
    refine .inl (hsound.cleared worker ?_)
    show (errand course worker).HasCleared
    rw [hspawning]
    trivial
  | true =>
    obtain ⟨i, rfl, hi⟩ := exists_of_spawning hspawning
    refine .inr ?_
    obtain ⟨wall, rfl⟩ := KeeperWorker.exists_of_call hworker
    exact ⟨i, wall, ticket, rfl, hi⟩

/-- Whoever launches a process finds none that the monitor looks after and that has not exited. -/
theorem exited_of_callsSpawner (hsound : (affairs course).Sound)
    (hright : KeeperMoment.DemandsRightly (course, event))
    (hcalls : KeeperMoment.CallsSpawner (course, event)) (child : Child)
    (hchild : course.shared.monitor.child = some child) :
    child.process ∈ course.shared.around.exited := by
  obtain ⟨worker, ticket, isDemanded, hworker, hspawning⟩ :=
    Affairs.calls_moves (next_affairs course event) hcalls
  rcases child_of_spawning hsound hworker hspawning with hnone | hdemands
  · rw [hchild] at hnone
    cases hnone
  · exact hright hdemands child hchild

/-- As long as nobody launches a process beside another one, the monitor looks after all that are
    there. -/
theorem allSupervised_after
    (h : ∀ moment ∈ keeperRules.history (start settings) events,
      KeeperMoment.DemandsRightly moment) :
    AllSupervised (keeperRules.after (start settings) events) := by
  induction events using List.reverseRecOn with
  | nil => exact fun _ hlt => absurd hlt (Nat.not_lt_zero _)
  | append_singleton events event ih =>
    rw [CrowdRules.history_concat] at h
    rw [CrowdRules.after_concat]
    have hbefore : (affairs (keeperRules.after (start settings) events)).outline.Supervised :=
      ih fun moment hmoment => h moment (List.mem_append_left _ hmoment)
    exact Affairs.supervised_moves hbefore (next_affairs _ event)
      (exited_of_callsSpawner (sound_after settings events)
        (h _ (List.mem_append_right _ (List.mem_singleton_self _))))

/-- A monitor keeps to one proxy, and looks after it as long as it is there, exactly if nobody who
    makes a proxy run launches one beside a process that the monitor looks after and that has not
    exited. -/
theorem alone_iff (settings : MonitorSettings) (events : List KeeperCourseEvent) :
    ((∀ moment ∈ keeperRules.history (start settings) events,
        KeeperMoment.CallsSpawner moment → AllGone moment.1) ∧
      ∀ moment ∈ keeperRules.history (start settings) events,
        AllSupervised (keeperRules.next moment.1 moment.2)) ↔
      ∀ moment ∈ keeperRules.history (start settings) events,
        KeeperMoment.DemandsRightly moment := by
  constructor
  · rintro ⟨halone, -⟩ moment hmem hdemands child hchild
    obtain ⟨before, later, hsplit⟩ := List.append_of_mem hmem
    obtain ⟨earlier, -, hearlier⟩ := keeperRules.history_split hsplit
    have hkept := (sound_after settings earlier).kept
    rw [hearlier] at hkept
    -- The process is not gone by being killed, since the monitor still looks after it.
    rcases halone moment hmem (callsSpawner_of_demandsLaunch hdemands) child.process
      (hkept.launched child hchild) with hexited | hkilled
    · exact hexited
    · exact absurd hkilled (hkept.spared child hchild)
  · intro hright
    have hsplit {moment : KeeperMoment}
        (hmem : moment ∈ keeperRules.history (start settings) events) :
        ∃ earlier, keeperRules.after (start settings) earlier = moment.1 ∧
          ∀ other ∈ keeperRules.history (start settings) (earlier ++ [moment.2]),
            KeeperMoment.DemandsRightly other := by
      obtain ⟨before, later, hsplit⟩ := List.append_of_mem hmem
      obtain ⟨earlier, hearlier, hafter⟩ := keeperRules.history_split hsplit
      refine ⟨earlier, hafter, fun other hother => hright other ?_⟩
      rw [CrowdRules.history_concat, hearlier, hafter] at hother
      rw [hsplit, List.append_cons]
      exact List.mem_append_left _ hother
    constructor
    · rintro ⟨course, event⟩ hmem hcalls process hlt
      obtain ⟨earlier, rfl, hpast⟩ := hsplit hmem
      rw [CrowdRules.history_concat] at hpast
      have hbefore := allSupervised_after fun other hother =>
        hpast other (List.mem_append_left _ hother)
      rcases hbefore process hlt with hgone | ⟨child, hfound, rfl⟩
      · exact hgone
      · exact .inl (exited_of_callsSpawner (sound_after settings earlier)
          (hright _ hmem) hcalls child hfound)
    · rintro ⟨course, event⟩ hmem
      obtain ⟨earlier, rfl, hpast⟩ := hsplit hmem
      rw [← CrowdRules.after_concat]
      exact allSupervised_after hpast

/-! ### A proxy that is silent for a moment -/

/-- A proxy is launched and says that it is ready. Later it is silent when somebody asks whether it
    is. -/
def silentEvents : List KeeperCourseEvent :=
  [.begin .ensureRunning, .step 0 0, .step 0 0, .step 0 0, .occur (.answers true), .step 0 0,
    .wait (.ofSecs 6), .occur (.answers false), .begin .ensureRunning, .step 1 0, .step 1 0]

theorem not_forall_alone : ¬ ∀ settings events,
    ∀ moment ∈ keeperRules.history (start settings) events,
      KeeperMoment.CallsSpawner moment → AllGone moment.1 := by
  intro h
  let course := keeperRules.after (start {}) silentEvents
  have hmem : (course, .step 1 0) ∈
      keeperRules.history (start {}) (silentEvents ++ [.step 1 0]) := by
    rw [CrowdRules.history_concat]
    exact List.mem_append_right _ (List.mem_singleton_self _)
  have hcalls : KeeperMoment.CallsSpawner (course, .step 1 0) := by
    unfold KeeperMoment.CallsSpawner
    decide +kernel
  have hgone : ¬(0 ∈ course.shared.around.exited ∨ 0 ∈ course.shared.around.killed) := by
    decide +kernel
  exact hgone (h {} _ _ hmem hcalls 0 (by decide +kernel))

end KeeperCourse
end SymbolSearch
