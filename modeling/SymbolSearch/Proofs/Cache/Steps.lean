import SymbolSearch.Proofs.Cache.Visits

/-!
# Steps of the operations of a cache

* `CacheTask.visit_step` — a step of any operation is nothing but moves; `CacheTask.evicted` says
  whose session it has taken out of its slot.
* `CacheTask.visit_cancel` — so is the end of one that is given up.
-/

namespace SymbolSearch

/-- Where an operation stands after a step that does not leave it where it is. -/
def Progress.stance {π ρ : Type} (stanceOf : π → Stance) (progress : Progress π ρ) : Stance :=
  (progress.point?.map stanceOf).getD (.has [])

/-- The key whose session the operation closes now, and did not before. -/
def Stance.evicted (before after : Stance) : Option CacheKey :=
  match before.closing?, after.closing? with
  | none, some key => some key
  | _, _ => none

variable {now : Instant} {mayDesert : Prop} {start : Visit} {before : Stance} {cache : Cache}
  {hold : Hold} {files : Option Tree} {taken : Option CacheKey}

namespace Stance

theorem evicted_has (before : Stance) (rest : List (CacheKey × SlotId)) :
    before.evicted (.has rest) = none := by
  unfold evicted
  split
  next h => cases h
  next => rfl

theorem evicted_of_none {after : Stance} (h : before.closing? = none) :
    before.evicted after = after.closing? := by
  rw [evicted, h]
  cases after.closing? <;> rfl

end Stance

namespace EntryPoint

/-- Where one stands after a step on the way to a slot. -/
def stanceAfter : Progress EntryPoint (Except CacheError Hold) → Stance
  | .moved entry => entry.stance
  | .finished (.ok hold) => .inside hold.seat [] .nothing
  | _ => .has []

theorem visit_step (files : Option Tree) (point : EntryPoint) (cache : Cache)
    (hblocked : (point.step files cache).2 ≠ .blocked) :
    VisitMoves now mayDesert ⟨cache, point.stance, taken⟩
      ⟨(point.step files cache).1, stanceAfter (point.step files cache).2, taken⟩ := by
  cases point with
  | starting ecosystem workspace =>
    simp only [step]
    split
    · exact .refl
    · exact .refl
  | finding ecosystem server workspace =>
    simp only [step] at hblocked ⊢
    split
    next => exact absurd rfl hblocked
    next tree =>
      split
      next => exact .refl
      next root _ =>
        dsimp only
        cases hlookup : cache.mapped.lookup (⟨ecosystem, root⟩ : CacheKey) with
        | none =>
          have hfound : cache.findSlot ⟨ecosystem, root⟩ =
              (cache.slots.length, cache.openSlot ⟨ecosystem, root⟩) := by
            simp only [Cache.findSlot, hlookup]
            rfl
          rw [hfound]
          exact (Relation.ReflTransGen.single (.opens cache taken _ hlookup)).tail
            (.approaches _ [] taken _)
        | some id =>
          have hfound : cache.findSlot ⟨ecosystem, root⟩ = (id, cache.takeSlot id) := by
            simp only [Cache.findSlot, hlookup]
            rfl
          rw [hfound]
          exact (Relation.ReflTransGen.single
            (.takes cache [] taken _ (Cache.mem_mapped_of_lookup hlookup))).tail
            (.approaches _ [] taken _)
  | queued hold =>
    simp only [step] at hblocked ⊢
    split
    next hholds =>
      have hholder : (cache.slotAt hold.slot).turns.holder = some hold.ticket := by
        simpa [Turns.holds] using hholds
      exact .single (.enters cache hold.seat [] taken hholder)
    next hholds =>
      rw [if_neg hholds] at hblocked
      exact absurd rfl hblocked

end EntryPoint

theorem Cache.visit_stepAdapterFor (files : Option Tree) (point : EntryPoint) (cache : Cache)
    (hblocked : (cache.stepAdapterFor files point).2 ≠ .blocked) :
    VisitMoves now mayDesert ⟨cache, point.stance, taken⟩
      ⟨(cache.stepAdapterFor files point).1,
        (cache.stepAdapterFor files point).2.stance EntryPoint.stance, taken⟩ := by
  have hentry (hstep : (point.step files cache).2 ≠ .blocked) :
      VisitMoves now mayDesert ⟨cache, point.stance, taken⟩ ⟨(point.step files cache).1,
        EntryPoint.stanceAfter (point.step files cache).2, taken⟩ :=
    point.visit_step files cache hstep
  unfold stepAdapterFor at hblocked ⊢
  generalize point.step files cache = stepped at hblocked hentry ⊢
  obtain ⟨cache', progress⟩ := stepped
  cases progress with
  | blocked => exact absurd rfl hblocked
  | moved entry => exact hentry (by rintro ⟨⟩)
  | finished result =>
    have hentered := hentry (by rintro ⟨⟩)
    cases result with
    | error error => exact hentered
    | ok hold => exact (hentered.adapterIn hold.server).leaveHold (.inr (by rintro id ⟨⟩))

/-! ### Getting a session -/

namespace ReconnectPoint

/-- What a step of getting a session leads to. -/
def Leads (now : Instant) (mayDesert : Prop) (start : Visit) (before : Stance)
    (stepped : Reconnected) : Prop :=
  stepped.2 ≠ .blocked → VisitMoves now mayDesert start
    ⟨stepped.1, stepped.2.stance stance, before.evicted (stepped.2.stance stance)⟩

theorem visit_giveUp
    (h : VisitMoves now mayDesert start ⟨cache, .inside hold.seat [] .nothing, none⟩)
    (error : CacheError) : Leads now mayDesert start before (giveUp hold error cache) := by
  intro _
  show VisitMoves now mayDesert start ⟨_, .has [], before.evicted (.has [])⟩
  rw [before.evicted_has]
  exact h.release

theorem visit_evict (hbefore : before.closing? = none)
    (h : VisitMoves now mayDesert start ⟨cache, .inside hold.seat [] .nothing, none⟩)
    (error : CacheError) : Leads now mayDesert start before (evict now hold error cache) := by
  unfold evict
  cases hslot : (cache.slotAt hold.slot).adapter with
  | none =>
    rw [Cache.emptySlot_of_none hslot]
    exact visit_giveUp h error
  | some adapter =>
    have hempty : cache.emptySlot hold.slot = (some adapter, (cache.emptySlot hold.slot).2) :=
      Prod.ext hslot rfl
    rw [hempty]
    dsimp only
    have hstopped : VisitMoves now mayDesert start
        ⟨((cache.emptySlot hold.slot).2.stepSession adapter (StopPoint.step now .asking)).1,
          .inside hold.seat [] (.closes adapter), some hold.key⟩ :=
      (h.empty hslot).stopSession _
    intro hblocked
    rcases (cache.emptySlot hold.slot).2.stepSession_cases adapter (StopPoint.step now .asking) with
      hstep | ⟨found, -, hstep⟩
    · rw [hstep] at hblocked
      exact absurd rfl hblocked
    · rw [hstep] at hstopped ⊢
      show VisitMoves now mayDesert start
        ⟨_, .inside hold.seat [] (.closes adapter), before.evicted _⟩
      rw [Stance.evicted_of_none hbefore]
      exact hstopped

theorem visit_afterFailure (attempt : Attempt) {id : AdapterId} (hbefore : before.closing? = none)
    (h : VisitMoves now mayDesert start ⟨cache, .inside attempt.hold.seat [] (.keeps id), none⟩) :
    Leads now mayDesert start before (afterFailure now attempt cache) := by
  have hpaused := h.tail (.pauses cache attempt.hold.seat [] none id)
  unfold afterFailure
  dsimp only
  split
  · exact visit_evict hbefore hpaused _
  · intro _
    show VisitMoves now mayDesert start
      ⟨cache, .inside attempt.hold.seat [] .nothing, before.evicted _⟩
    rw [Stance.evicted_of_none hbefore]
    exact hpaused

theorem visit_succeed (attempt : Attempt)
    (h : VisitMoves now mayDesert start
      ⟨cache, .inside attempt.hold.seat [] (.keeps attempt.adapter), none⟩) :
    Leads now mayDesert start before (succeed attempt cache) := by
  intro _
  show VisitMoves now mayDesert start ⟨_, .has [], before.evicted (.has [])⟩
  rw [before.evicted_has]
  unfold succeed
  dsimp only
  split
  · exact h.leaveHold (.inr (by rintro id ⟨⟩))
  · have hforgets := h.tail (.works cache attempt.hold.seat [] none attempt.adapter
      Adapter.invalidate fun _ _ => rfl)
    exact VisitMoves.leaveHold hforgets (.inr (by rintro id ⟨⟩))

theorem visit_afterCheck (attempt : Attempt) (hbefore : before.closing? = none)
    {stepped : Stepped Cache GuardPoint Bool}
    (h : VisitMoves now mayDesert start
      ⟨stepped.1, .inside attempt.hold.seat [] (.keeps attempt.adapter), none⟩) :
    Leads now mayDesert start before (afterCheck now attempt stepped) := by
  obtain ⟨cache', progress⟩ := stepped
  cases progress with
  | blocked => exact fun hblocked => absurd rfl hblocked
  | moved guardPoint =>
    intro _
    show VisitMoves now mayDesert start
      ⟨cache', .inside attempt.hold.seat [] (.keeps attempt.adapter), before.evicted _⟩
    rw [Stance.evicted_of_none hbefore]
    exact h
  | finished alive =>
    cases alive with
    | true => exact visit_succeed attempt h
    | false => exact visit_afterFailure attempt hbefore h

theorem visit_afterEnsure (attempt : Attempt) (hbefore : before.closing? = none)
    {stepped : Stepped Cache EnsurePoint (Except SessionError Unit)}
    (h : VisitMoves now mayDesert start
      ⟨stepped.1, .inside attempt.hold.seat [] (.keeps attempt.adapter), none⟩) :
    Leads now mayDesert start before (afterEnsure now attempt stepped) := by
  obtain ⟨cache', progress⟩ := stepped
  cases progress with
  | blocked => exact fun hblocked => absurd rfl hblocked
  | moved ensure =>
    intro _
    show VisitMoves now mayDesert start
      ⟨cache', .inside attempt.hold.seat [] (.keeps attempt.adapter), before.evicted _⟩
    rw [Stance.evicted_of_none hbefore]
    exact h
  | finished result =>
    cases result with
    | ok => exact visit_afterCheck attempt hbefore (h.stepSession (Session.stepAlive .asking))
    | error error =>
      simp only [afterEnsure]
      split
      · intro _
        show VisitMoves now mayDesert start ⟨_, .has [], before.evicted (.has [])⟩
        rw [before.evicted_has]
        exact h.leaveHold (.inr (by rintro id ⟨⟩))
      · split
        · exact visit_evict hbefore
            (h.tail (.pauses cache' attempt.hold.seat [] none attempt.adapter)) _
        · exact visit_afterFailure attempt hbefore h

theorem visit_begin (failed : Nat) (hbefore : before.closing? = none)
    (h : VisitMoves now mayDesert start ⟨cache, .inside hold.seat [] .nothing, none⟩) :
    Leads now mayDesert start before (begin now hold failed cache) :=
  visit_afterEnsure ⟨hold, failed, _, _⟩ hbefore
    ((h.adapterIn hold.server).stepSession (EnsurePoint.step now .asking))

theorem visit_step (files : Option Tree) (point : ReconnectPoint) (cache : Cache) :
    Leads now mayDesert ⟨cache, point.stance, none⟩ point.stance (point.step now files cache) := by
  cases point with
  | entering entry =>
    have hbefore : entry.stance.closing? = none := by cases entry <;> rfl
    have hentry (hstep : (entry.step files cache).2 ≠ .blocked) :
        VisitMoves now mayDesert ⟨cache, entry.stance, none⟩ ⟨(entry.step files cache).1,
          EntryPoint.stanceAfter (entry.step files cache).2, none⟩ :=
      entry.visit_step files cache hstep
    show Leads now mayDesert ⟨cache, entry.stance, none⟩ entry.stance _
    simp only [step]
    generalize entry.step files cache = stepped at hentry ⊢
    obtain ⟨cache', progress⟩ := stepped
    cases progress with
    | blocked => exact fun hblocked => absurd rfl hblocked
    | moved entry' =>
      intro _
      have hafter : entry'.stance.closing? = none := by cases entry' <;> rfl
      show VisitMoves now mayDesert _ ⟨cache', entry'.stance, entry.stance.evicted entry'.stance⟩
      rw [Stance.evicted_of_none hbefore, hafter]
      exact hentry (by rintro ⟨⟩)
    | finished result =>
      have hentered := hentry (by rintro ⟨⟩)
      cases result with
      | error error =>
        intro _
        show VisitMoves now mayDesert _ ⟨cache', .has [], entry.stance.evicted (.has [])⟩
        rw [Stance.evicted_has]
        exact hentered
      | ok hold => exact visit_begin 0 hbefore hentered
  | trying attempt ensure =>
    have hstart : VisitMoves now mayDesert
        ⟨cache, .inside attempt.hold.seat [] (.keeps attempt.adapter), none⟩
        ⟨cache, .inside attempt.hold.seat [] (.keeps attempt.adapter), none⟩ := .refl
    exact visit_afterEnsure attempt rfl (hstart.stepSession (ensure.step now))
  | checking attempt guardPoint =>
    have hstart : VisitMoves now mayDesert
        ⟨cache, .inside attempt.hold.seat [] (.keeps attempt.adapter), none⟩
        ⟨cache, .inside attempt.hold.seat [] (.keeps attempt.adapter), none⟩ := .refl
    exact visit_afterCheck attempt rfl (hstart.stepSession (Session.stepAlive guardPoint))
  | pausing hold failed resume =>
    simp only [step]
    split
    · exact visit_begin failed rfl .refl
    · exact fun hblocked => absurd rfl hblocked
  | evicting hold adapter stop error =>
    have hstart : VisitMoves now mayDesert
        ⟨cache, .inside hold.seat [] (.closes adapter), none⟩
        ⟨cache, .inside hold.seat [] (.closes adapter), none⟩ := .refl
    have hstopped := hstart.stopSession (stop.step now)
    have hclosed (h : (cache.stepSession adapter (stop.step now)).2 = .finished ()) :=
      Cache.closed_of_finished h
    simp only [step]
    generalize cache.stepSession adapter (stop.step now) = stepped at hstopped hclosed
    obtain ⟨cache', progress⟩ := stepped
    cases progress with
    | blocked => exact fun hblocked => absurd rfl hblocked
    | moved stop' => exact fun _ => hstopped
    | finished =>
      obtain ⟨session, hsession, hstate⟩ := hclosed rfl
      exact visit_giveUp (hstopped.tail
        (.closes cache' hold.seat [] none adapter session hsession hstate)) error

end ReconnectPoint

/-! ### Resetting a session -/

namespace RevivePoint

theorem visit_afterReset {id : AdapterId} {stepped : Stepped Cache GuardPoint Bool}
    (h : VisitMoves now mayDesert start ⟨stepped.1, .inside hold.seat [] (.keeps id), taken⟩)
    (hblocked : (afterReset hold id stepped).2 ≠ .blocked) :
    VisitMoves now mayDesert start
      ⟨(afterReset hold id stepped).1, (afterReset hold id stepped).2.stance stance, taken⟩ := by
  obtain ⟨cache', progress⟩ := stepped
  cases progress with
  | blocked => exact absurd rfl hblocked
  | moved guardPoint => exact h
  | finished changed => exact h.leaveHold (.inr (by rintro id ⟨⟩))

theorem visit_step (files : Option Tree) (point : RevivePoint) (cache : Cache)
    (hblocked : (point.step files cache).2 ≠ .blocked) :
    VisitMoves now mayDesert ⟨cache, point.stance, taken⟩
      ⟨(point.step files cache).1, (point.step files cache).2.stance stance, taken⟩ := by
  cases point with
  | entering entry =>
    have hentry (hstep : (entry.step files cache).2 ≠ .blocked) :
        VisitMoves now mayDesert ⟨cache, entry.stance, taken⟩ ⟨(entry.step files cache).1,
          EntryPoint.stanceAfter (entry.step files cache).2, taken⟩ :=
      entry.visit_step files cache hstep
    show VisitMoves now mayDesert ⟨cache, entry.stance, taken⟩ _
    simp only [step] at hblocked ⊢
    generalize entry.step files cache = stepped at hentry hblocked ⊢
    obtain ⟨cache', progress⟩ := stepped
    cases progress with
    | blocked => exact absurd rfl hblocked
    | moved entry' => exact hentry (by rintro ⟨⟩)
    | finished result =>
      have hentered := hentry (by rintro ⟨⟩)
      cases result with
      | error error => exact hentered
      | ok hold =>
        dsimp only at hblocked ⊢
        cases hslot : (cache'.slotAt hold.slot).adapter with
        | none => exact hentered.leaveHold (.inr (by rintro id ⟨⟩))
        | some adapter =>
          rw [hslot] at hblocked
          have hfound := hentered.tail (.finds cache' hold.seat [] taken adapter hslot)
          have hforgets := hfound.tail (.works cache' hold.seat [] taken adapter
            Adapter.invalidate fun _ _ => rfl)
          exact visit_afterReset (VisitMoves.stepSession (Session.stepReset .asking) hforgets)
            hblocked
  | resetting hold adapter guardPoint =>
    have hstart : VisitMoves now mayDesert
        ⟨cache, .inside hold.seat [] (.keeps adapter), taken⟩
        ⟨cache, .inside hold.seat [] (.keeps adapter), taken⟩ := .refl
    exact visit_afterReset (hstart.stepSession (Session.stepReset guardPoint)) hblocked

end RevivePoint

/-! ### Closing sessions -/

namespace DisconnectPoint

variable {seat : Seat} {rest chosen : List (CacheKey × SlotId)} {closed : Nat}

theorem visit_gather (hsub : ∀ claim ∈ chosen, claim ∈ cache.mapped) :
    VisitMoves now mayDesert ⟨cache, .has rest, taken⟩
      ⟨chosen.foldl (fun cache claim => cache.takeSlot claim.2) cache, .has (rest ++ chosen),
        taken⟩ := by
  induction chosen generalizing cache rest with
  | nil =>
    rw [List.append_nil]
    exact .refl
  | cons first others ih =>
    have hfirst : VisitMove now mayDesert ⟨cache, .has rest, taken⟩
        ⟨cache.takeSlot first.2, .has (rest ++ [first]), taken⟩ :=
      .takes cache rest taken first (hsub first List.mem_cons_self)
    have hothers : VisitMoves now mayDesert ⟨cache.takeSlot first.2, .has (rest ++ [first]), taken⟩
        ⟨others.foldl (fun cache claim => cache.takeSlot claim.2) (cache.takeSlot first.2),
          .has ((rest ++ [first]) ++ others), taken⟩ :=
      ih fun claim hmem => hsub claim (List.mem_cons_of_mem _ hmem)
    rw [List.append_assoc, List.singleton_append] at hothers
    exact .head hfirst hothers

theorem visit_afterStop {id : AdapterId} {stepped : Stepped Cache StopPoint Unit}
    (h : VisitMoves now mayDesert start ⟨stepped.1, .inside seat rest (.closes id), taken⟩)
    (hclosed : stepped.2 = .finished () →
      ∃ session, stepped.1.session? id = some session ∧ session.state = .closed)
    (hblocked : stepped.2 ≠ .blocked) :
    VisitMoves now mayDesert start
      ⟨(afterStop seat.key seat.slot seat.ticket rest closed id stepped).1,
        (afterStop seat.key seat.slot seat.ticket rest closed id stepped).2.stance stance,
        taken⟩ := by
  obtain ⟨cache', progress⟩ := stepped
  cases progress with
  | blocked => exact absurd rfl hblocked
  | moved stop => exact h
  | finished =>
    obtain ⟨session, hsession, hstate⟩ := hclosed rfl
    exact VisitMoves.release (h.tail (.closes cache' seat rest taken id session hsession hstate))

theorem visit_step (files : Option Tree) (point : DisconnectPoint) (cache : Cache)
    (hblocked : (point.step now files cache).2 ≠ .blocked) :
    VisitMoves now mayDesert ⟨cache, point.stance, none⟩
      ⟨(point.step now files cache).1, (point.step now files cache).2.stance stance,
        point.stance.evicted ((point.step now files cache).2.stance stance)⟩ := by
  cases point with
  | starting => exact visit_gather fun _ => id
  | finding workspace =>
    simp only [step] at hblocked ⊢
    split
    next => exact absurd rfl hblocked
    next => exact visit_gather fun claim hmem => (List.mem_filter.mp hmem).1
  | working rest closed =>
    cases rest with
    | nil => exact .refl
    | cons claim rest => exact .single (.approaches cache rest none claim)
  | queued key slot ticket rest closed =>
    simp only [step] at hblocked ⊢
    split
    next hholds =>
      rw [if_pos hholds] at hblocked
      have hholder : (cache.slotAt slot).turns.holder = some ticket := by
        simpa [Turns.holds] using hholds
      have hentered : VisitMoves now mayDesert ⟨cache, .queued ⟨key, slot, ticket⟩ rest, none⟩
          ⟨cache, .inside ⟨key, slot, ticket⟩ rest .nothing, none⟩ :=
        .single (.enters cache ⟨key, slot, ticket⟩ rest none hholder)
      cases hslot : (cache.slotAt slot).adapter with
      | none =>
        rw [Cache.emptySlot_of_none hslot]
        exact hentered.release
      | some adapter =>
        have hempty : cache.emptySlot slot = (some adapter, (cache.emptySlot slot).2) :=
          Prod.ext hslot rfl
        rw [hempty] at hblocked ⊢
        have hstopped := (hentered.empty hslot).stopSession (StopPoint.step now .asking)
        dsimp only at hblocked ⊢
        rcases (cache.emptySlot slot).2.stepSession_cases adapter (StopPoint.step now .asking) with
          hstep | ⟨found, -, hstep⟩
        · rw [hstep] at hblocked
          exact absurd rfl hblocked
        · rw [hstep] at hstopped ⊢
          exact hstopped
    next hholds =>
      rw [if_neg hholds] at hblocked
      exact absurd rfl hblocked
  | stopping key slot ticket rest closed adapter stop =>
    have hstart : VisitMoves now mayDesert
        ⟨cache, .inside ⟨key, slot, ticket⟩ rest (.closes adapter), none⟩
        ⟨cache, .inside ⟨key, slot, ticket⟩ rest (.closes adapter), none⟩ := .refl
    refine visit_afterStop (hstart.stopSession (stop.step now)) Cache.closed_of_finished ?_
    intro hstep
    refine hblocked ?_
    show (afterStop _ _ _ _ _ _ _).2 = _
    generalize cache.stepSession adapter (stop.step now) = stepped at hstep
    obtain ⟨cache', progress⟩ := stepped
    obtain rfl := hstep
    rfl

theorem visit_dropAll
    (h : VisitMoves now mayDesert start ⟨cache, .has rest, taken⟩) :
    VisitMoves now mayDesert start ⟨dropAll rest cache, .has [], taken⟩ := by
  induction rest generalizing cache with
  | nil => exact h
  | cons claim rest ih => exact ih (h.tail (.drops cache rest taken claim))

end DisconnectPoint

/-! ### Any operation -/

namespace CacheTask

/-- The key whose session a step of an operation has taken out of its slot, to close it. -/
def evicts (task : CacheTask) (progress : Progress CacheTask CacheReply) : Option CacheKey :=
  task.stance.evicted (progress.stance stance)

theorem stance_map {π ρ : Type} {make : π → CacheTask} {reply : ρ → CacheReply}
    (progress : Progress π ρ) :
    (progress.map make reply).stance stance = progress.stance fun point => (make point).stance := by
  cases progress <;> rfl

theorem closing?_entry (entry : EntryPoint) : entry.stance.closing? = none := by
  cases entry <;> rfl

/-- Operations that close nothing evict nothing. -/
theorem evicted_progress {π ρ : Type} {stanceOf : π → Stance} {before : Stance}
    (hnever : ∀ point, (stanceOf point).closing? = none) (progress : Progress π ρ) :
    before.evicted (progress.stance stanceOf) = none := by
  have hafter : (progress.stance stanceOf).closing? = none := by
    cases progress with
    | moved point => exact hnever point
    | blocked | finished => rfl
  unfold Stance.evicted
  split
  next h =>
    rw [hafter] at h
    cases h
  next => rfl

/-- A step of an operation is nothing but moves. -/
theorem visit_step (files : Option Tree) (task : CacheTask) (cache : Cache)
    (hblocked : (task.step now files cache).2 ≠ .blocked) :
    VisitMoves now mayDesert ⟨cache, task.stance, none⟩
      ⟨(task.step now files cache).1, (task.step now files cache).2.stance stance,
        task.evicts (task.step now files cache).2⟩ := by
  have hpoint {π ρ : Type} {make : π → CacheTask} {reply : ρ → CacheReply}
      {stepped : Stepped Cache π ρ} (h : (stepped.map make reply).2 ≠ .blocked) :
      stepped.2 ≠ .blocked := fun hstep => h (by rw [Stepped.map, hstep]; rfl)
  cases task with
  | find entry =>
    have hvisit : VisitMoves now mayDesert ⟨cache, entry.stance, none⟩
        ⟨(cache.stepAdapterFor files entry).1,
          (cache.stepAdapterFor files entry).2.stance EntryPoint.stance, none⟩ :=
      cache.visit_stepAdapterFor files entry (hpoint hblocked)
    have hnone : (find entry).stance.evicted
        ((cache.stepAdapterFor files entry).2.stance fun point => (find point).stance) = none :=
      evicted_progress closing?_entry _
    rw [evicts, step, Stepped.map, stance_map, hnone]
    exact hvisit
  | findFor workspace file =>
    simp only [step]
    split
    · exact .refl
    · exact .refl
  | ensure point =>
    have hvisit : VisitMoves now mayDesert ⟨cache, point.stance, none⟩
        ⟨(point.step now files cache).1,
          (point.step now files cache).2.stance ReconnectPoint.stance,
          point.stance.evicted ((point.step now files cache).2.stance ReconnectPoint.stance)⟩ :=
      point.visit_step files cache (hpoint hblocked)
    rw [evicts, step, Stepped.map, stance_map]
    exact hvisit
  | revive point =>
    have hnever (point : RevivePoint) : point.stance.closing? = none := by
      cases point with
      | entering entry => exact closing?_entry entry
      | resetting => rfl
    have hvisit : VisitMoves now mayDesert ⟨cache, point.stance, none⟩
        ⟨(point.step files cache).1, (point.step files cache).2.stance RevivePoint.stance, none⟩ :=
      point.visit_step files cache (hpoint hblocked)
    have hnone : (revive point).stance.evicted
        ((point.step files cache).2.stance fun point => (revive point).stance) = none :=
      evicted_progress hnever _
    rw [evicts, step, Stepped.map, stance_map, hnone]
    exact hvisit
  | disconnect point =>
    have hvisit : VisitMoves now mayDesert ⟨cache, point.stance, none⟩
        ⟨(point.step now files cache).1,
          (point.step now files cache).2.stance DisconnectPoint.stance,
          point.stance.evicted ((point.step now files cache).2.stance DisconnectPoint.stance)⟩ :=
      point.visit_step files cache (hpoint hblocked)
    rw [evicts, step, Stepped.map, stance_map]
    exact hvisit
  | ask id point =>
    have hstance {stepped : Stepped Cache InquiryPoint Sourced} :
        (stepped.map (CacheTask.ask id) CacheReply.answered).2.stance stance = .has [] := by
      obtain ⟨cache', progress⟩ := stepped
      cases progress <;> rfl
    rw [evicts, step, hstance, Stance.evicted_has]
    have hblocked := hpoint hblocked
    show VisitMoves now mayDesert ⟨cache, .has [], none⟩
      ⟨(cache.stepAdapter id (point.step now files)).1, .has [], none⟩
    unfold Cache.stepAdapter at hblocked ⊢
    cases hadapter : cache.adapters[id]? with
    | none => exact .refl
    | some adapter =>
      refine .single (.touches cache (.has []) none id _ fun found hfound => ?_)
      obtain rfl : adapter = found := Option.some.inj (hadapter.symm.trans hfound)
      exact point.calm_step files adapter

theorem visit_entry (entry : EntryPoint) (cache : Cache) :
    VisitMoves now mayDesert ⟨cache, entry.stance, none⟩ ⟨entry.cancel cache, .has [], none⟩ := by
  cases entry with
  | starting | finding => exact .refl
  | queued hold =>
    exact (Relation.ReflTransGen.single (.turnsBack cache hold.seat [] none)).tail
      (.drops _ [] none hold.seat.claim)

/-- The end of an operation that is given up is nothing but moves. -/
theorem visit_cancel (task : CacheTask) (cache : Cache) :
    VisitMoves now True ⟨cache, task.stance, none⟩ ⟨task.cancel cache, .has [], none⟩ := by
  have hworks (hold : Hold) (id : AdapterId) (change : Session → Session) :
      VisitMoves now True ⟨cache, .inside hold.seat [] (.keeps id), none⟩
        ⟨(cache.updateSession id change).leaveHold hold, .has [], none⟩ := by
    have hchanged : VisitMoves now True ⟨cache, .inside hold.seat [] (.keeps id), none⟩
        ⟨cache.updateSession id change, .inside hold.seat [] (.keeps id), none⟩ :=
      .single (.works cache hold.seat [] none id _ fun _ _ => rfl)
    exact hchanged.leaveHold (.inl trivial)
  have hstops (seat : Seat) (rest : List (CacheKey × SlotId)) (id : AdapterId)
      (change : Session → Session) :
      VisitMoves now True ⟨cache, .inside seat rest (.closes id), none⟩
        ⟨((cache.updateSession id change).leaveSlot seat.slot seat.ticket).dropSlot seat.slot,
          .has rest, none⟩ := by
    have hchanged : VisitMoves now True ⟨cache, .inside seat rest (.closes id), none⟩
        ⟨cache.updateSession id change, .inside seat rest (.closes id), none⟩ :=
      .single (.stops cache seat rest none id _ fun _ _ => rfl)
    exact hchanged.leaveHold (.inl trivial)
  cases task with
  | find entry => exact visit_entry entry cache
  | findFor workspace file => exact .refl
  | ensure point =>
    cases point with
    | entering entry => exact visit_entry entry cache
    | trying attempt ensure => exact hworks attempt.hold attempt.adapter ensure.cancel
    | checking attempt guardPoint => exact hworks attempt.hold attempt.adapter _
    | pausing hold failed resume =>
      have hstart : VisitMoves now True ⟨cache, .inside hold.seat [] .nothing, none⟩
          ⟨cache, .inside hold.seat [] .nothing, none⟩ := .refl
      exact hstart.leaveHold (.inl trivial)
    | evicting hold adapter stop error => exact hstops hold.seat [] adapter stop.cancel
  | revive point =>
    cases point with
    | entering entry => exact visit_entry entry cache
    | resetting hold adapter guardPoint => exact hworks hold adapter _
  | disconnect point =>
    cases point with
    | starting | finding => exact .refl
    | working rest closed => exact DisconnectPoint.visit_dropAll .refl
    | queued key slot ticket rest closed =>
      exact DisconnectPoint.visit_dropAll ((Relation.ReflTransGen.single
        (.turnsBack cache ⟨key, slot, ticket⟩ rest none)).tail (.drops _ rest none (key, slot)))
    | stopping key slot ticket rest closed adapter stop =>
      exact DisconnectPoint.visit_dropAll (hstops ⟨key, slot, ticket⟩ rest adapter stop.cancel)
  | ask id point =>
    exact .single (.touches cache (.has []) none id point.cancel
      fun adapter _ => (point.alike_cancel adapter).calm)

end CacheTask
end SymbolSearch
