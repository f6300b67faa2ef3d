import SymbolSearch.Proofs.Session.Telling

/-!
# The order in which a client speaks

On every connection the client greets and is answered before it confirms, works only behind its
confirmation, and says its exit only behind its farewell. But work that waits for room when the
session is closed may get in behind the farewell.

* `spoken` and `written` — what a course has put into the outbox of a link, and what was taken from
  it to be written.
* `Overtaken` — work that had waited got in when the farewell was said already.
* `SessionCourse.lifecycle_iff_not_overtaken` — any course: nothing else spoils the order.
* `SessionCourse.not_forall_lifecycle` — but this does.
-/

namespace SymbolSearch

open Session

/-! ### What was said -/

/-- What a moment puts into the outbox of a link. -/
def CourseMoment.said (k : LinkId) (moment : CourseMoment) : List Utterance :=
  ((sessionRules.next moment.1 moment.2).shared.voice k).words.drop
    (moment.1.shared.voice k).words.length

/-- What a moment takes from the outbox of a link to be written. -/
def CourseMoment.written? (k : LinkId) (moment : CourseMoment) : Option Utterance :=
  match moment.2 with
  | .occur event => moment.1.shared.taken? k event
  | _ => none

/-- Work that has waited for room on a link gets in at a moment. -/
def CourseMoment.GetsIn (k : LinkId) (moment : CourseMoment) : Prop :=
  ∃ i task progress, sessionRules.step? moment = some (i, task, progress) ∧
    task.GetsIn moment.1.shared k

/-- All that was put into the outbox of a link. -/
def spoken (past : List CourseMoment) (k : LinkId) : List Utterance :=
  past.flatMap (CourseMoment.said k)

/-- All that was taken from the outbox of a link to be written. -/
def written (past : List CourseMoment) (k : LinkId) : List Utterance :=
  past.filterMap (CourseMoment.written? k)

/-- Work that had waited for room on a link got in behind the farewell. -/
def Overtaken (past : List CourseMoment) (k : LinkId) : Prop :=
  ∃ before moment later, past = before ++ moment :: later ∧ .farewell ∈ spoken before k ∧
    CourseMoment.GetsIn k moment

/-- Whether a notification is about a document. The others belong to the handshake and to the
    end. -/
def Notice.isAboutDocument : Notice → Bool
  | .didOpen _ _ _ | .didClose _ => true
  | .initialized | .exit => false

/-- Whether an event asks for nothing but what a session is there for: nobody but the session itself
    says that a connection begins or ends. -/
def CourseEvent.isFair : CourseEvent → Bool
  | .begin (.notify notice) => notice.isAboutDocument
  | _ => true

/-- How far each link has come. -/
def phasesOf (past : List CourseMoment) : Phases := fun k => phase? (spoken past k)

variable {past : List CourseMoment} {moment : CourseMoment} {k : LinkId}

theorem spoken_concat (past : List CourseMoment) (moment : CourseMoment) (k : LinkId) :
    spoken (past ++ [moment]) k = spoken past k ++ CourseMoment.said k moment := by
  simp [spoken]

theorem written_concat (past : List CourseMoment) (moment : CourseMoment) (k : LinkId) :
    written (past ++ [moment]) k = written past k ++ (CourseMoment.written? k moment).toList := by
  rw [written, List.filterMap_append]
  cases hword : CourseMoment.written? k moment with
  | none => simp [written, hword]
  | some word => simp [written, hword]

theorem overtaken_concat (past : List CourseMoment) (moment : CourseMoment) (k : LinkId) :
    Overtaken (past ++ [moment]) k ↔
      Overtaken past k ∨ .farewell ∈ spoken past k ∧ CourseMoment.GetsIn k moment := by
  constructor
  · rintro ⟨before, found, later, heq, hfarewell, hgets⟩
    rcases List.eq_nil_or_concat later with rfl | ⟨later, last, rfl⟩
    · obtain ⟨rfl, hlast⟩ := List.append_inj' heq rfl
      obtain rfl := List.singleton_inj.mp hlast
      exact .inr ⟨hfarewell, hgets⟩
    · rw [List.concat_eq_append, ← List.cons_append, ← List.append_assoc] at heq
      exact .inl ⟨before, found, later, (List.append_inj' heq rfl).1, hfarewell, hgets⟩
  · rintro (⟨before, found, later, rfl, hfarewell, hgets⟩ | ⟨hfarewell, hgets⟩)
    · exact ⟨before, found, later ++ [moment], by simp, hfarewell, hgets⟩
    · exact ⟨past, moment, [], rfl, hfarewell, hgets⟩

/-! ### One moment -/

/-- What is said on a link, out of all that is said. -/
def saidOn (said : Option (LinkId × Utterance)) (k : LinkId) : List Utterance :=
  match said with
  | some (j, word) => if j = k then [word] else []
  | none => []

/-- What is still to be written on a link is what was said and not written yet. -/
structure Voice.Follows (spoken written : List Utterance) (voice : Voice) : Prop where
  isOpen : voice.isOpen = true → spoken = written ++ voice.words
  closed : voice.isOpen = false → voice.words = [] ∧ written <+: spoken

variable {s s' : Session} {said : Option (LinkId × Utterance)} {spoken' written' : List Utterance}
  {phases : Phases}

namespace Voice.Follows

variable {voice : Voice}

theorem prefix_spoken (h : voice.Follows spoken' written') : written' <+: spoken' := by
  cases hopen : voice.isOpen with
  | true => exact h.isOpen hopen ▸ List.prefix_append _ _
  | false => exact (h.closed hopen).2

theorem gone (h : written' <+: spoken') : Voice.gone.Follows spoken' written' :=
  ⟨by rintro ⟨⟩, fun _ => ⟨rfl, h⟩⟩

/-- A word is said. -/
theorem concat (h : voice.Follows spoken' written') (hopen : voice.isOpen = true)
    (word : Utterance) :
    Voice.Follows (spoken' ++ [word]) written' ⟨true, voice.words ++ [word]⟩ :=
  ⟨fun _ => by rw [h.isOpen hopen, List.append_assoc], by rintro ⟨⟩⟩

/-- The first word is written. -/
theorem take {word : Utterance} {rest : List Utterance} (h : voice.Follows spoken' written')
    (hwords : voice.words = word :: rest) :
    Voice.Follows spoken' (written' ++ [word]) ⟨voice.isOpen, rest⟩ := by
  constructor
  · intro hopen
    rw [h.isOpen hopen, hwords, List.append_assoc, List.singleton_append]
  · intro hclosed
    rw [(h.closed hclosed).1] at hwords
    cases hwords

end Voice.Follows

theorem voice_of_le (h : s.links.length ≤ k) : s.voice k = .gone :=
  SendPoint.voice_of_none (List.getElem?_eq_none_iff.mpr h)

namespace Session.Speaks

theorem drop_words (h : s.Speaks s' said) (k : LinkId) :
    (s'.voice k).words.drop (s.voice k).words.length = saidOn said k := by
  cases h with
  | hush hhush =>
    rcases hhush.voice k with hsame | hgone | ⟨-, hnew⟩
    · rw [hsame]
      exact List.drop_length
    · rw [hgone]
      exact List.drop_nil
    · rw [hnew]
      exact List.drop_nil
  | word j word htells =>
    by_cases hj : j = k
    · subst hj
      rw [htells.self]
      simp [saidOn]
    · rw [htells.other k (Ne.symm hj)]
      simp [saidOn, hj]

theorem length_le (h : s.Speaks s' said) : s.links.length ≤ s'.links.length := by
  cases h with
  | hush hhush => exact hhush.length
  | word k word htells => exact Nat.le_of_eq htells.length.symm

/-- Nothing is said on a link that does not exist. -/
theorem saidOn_of_le (h : s.Speaks s' said) (hk : s.links.length ≤ k) : saidOn said k = [] := by
  cases h with
  | hush => rfl
  | word j word htells =>
    refine if_neg ?_
    rintro rfl
    have hopen := htells.isOpen
    rw [voice_of_le hk] at hopen
    cases hopen

theorem follows (h : s.Speaks s' said) (hunborn : s.links.length ≤ k → spoken' = [])
    (hfollows : (s.voice k).Follows spoken' written') :
    (s'.voice k).Follows (spoken' ++ saidOn said k) written' := by
  cases h with
  | hush hhush =>
    rw [show saidOn none k = [] from rfl, List.append_nil]
    rcases hhush.voice k with hsame | hgone | ⟨hle, hnew⟩
    · rwa [hsame]
    · rw [hgone]
      exact .gone hfollows.prefix_spoken
    · have hnone : written' = [] :=
        List.prefix_nil.mp (hunborn hle ▸ hfollows.prefix_spoken)
      rw [hnew, hunborn hle, hnone]
      exact ⟨fun _ => rfl, by rintro ⟨⟩⟩
  | word j word htells =>
    by_cases hj : j = k
    · subst hj
      rw [htells.self, show saidOn (some (j, word)) j = [word] from if_pos rfl]
      exact hfollows.concat htells.isOpen word
    · rw [htells.other k (Ne.symm hj), show saidOn (some (j, word)) k = [] from if_neg hj,
        List.append_nil]
      exact hfollows

end Session.Speaks

theorem phases_after (h : ∀ k, CourseMoment.said k moment = saidOn said k) :
    phasesOf (past ++ [moment]) = (phasesOf past).after said := by
  funext k
  rw [phasesOf, spoken_concat, h]
  cases said with
  | none => exact congrArg phase? (List.append_nil _)
  | some pair =>
    obtain ⟨j, word⟩ := pair
    by_cases hj : j = k
    · subst hj
      rw [show saidOn (some (j, word)) j = [word] from if_pos rfl, phase?_concat, Phases.after,
        Function.update_self]
      rfl
    · rw [show saidOn (some (j, word)) k = [] from if_neg hj, List.append_nil, Phases.after,
        Function.update_of_ne (Ne.symm hj)]
      rfl

/-! ### Courses -/

namespace SessionCourse

/-- What a client has said keeps to the order, but for work that came late. -/
structure Voiced (past : List CourseMoment) (course : SessionCourse) : Prop where
  engages : course.Engages
  inTurn : ∀ k, ∃ phase, phasesOf past k = some phase
  /-- Nothing was said on a link that does not exist yet. -/
  unborn : ∀ k, course.shared.links.length ≤ k → spoken past k = []
  welcomes : Welcomes (phasesOf past) course.shared
  fits : ∀ i task, course.task? i = some task → task.Fits (phasesOf past) course.shared.writer
  follows : ∀ k, (course.shared.voice k).Follows (spoken past k) (written past k)
  order : ∀ k, Lifecycle (spoken past k) ↔ ¬Overtaken past k

variable {course : SessionCourse} {event : CourseEvent} {i : Nat} {task : SessionTask}

theorem Voiced.silent (h : Voiced past course) (k : LinkId)
    (hk : course.shared.links.length ≤ k) : phasesOf past k = some .silent := by
  rw [phasesOf, h.unborn k hk]
  rfl

/-- The order after a word more, or none. -/
theorem Voiced.order_concat (h : Voiced past course) (moment : CourseMoment)
    (hsaid : CourseMoment.said k moment = saidOn said k)
    (hinTurn : ∀ k word, said = some (k, word) →
      ∃ phase, (phasesOf past k).bind (·.next? word) = some phase)
    (hlate : ∀ phase, said = some (k, .work) → phasesOf past k = some phase →
      phase.isOver = true → CourseMoment.GetsIn k moment)
    (hgets : CourseMoment.GetsIn k moment → said = some (k, .work)) :
    Lifecycle (spoken (past ++ [moment]) k) ↔ ¬Overtaken (past ++ [moment]) k := by
  obtain ⟨phase, hphase⟩ := h.inTurn k
  have hphase : phase? (spoken past k) = some phase := hphase
  rw [spoken_concat, hsaid, overtaken_concat, farewell_mem_iff hphase, not_or, ← h.order k]
  by_cases hword : ∃ word, said = some (k, word)
  · obtain ⟨word, rfl⟩ := hword
    obtain ⟨phase', hnext⟩ := hinTurn k word rfl
    have hnext : phase.next? word = some phase' := by rwa [phasesOf, hphase] at hnext
    rw [show saidOn (some (k, word)) k = [word] from if_pos rfl, lifecycle_concat_iff hphase hnext]
    refine and_congr_right fun _ => not_congr ⟨?_, ?_⟩
    · rintro ⟨rfl, hover⟩
      exact ⟨hover, hlate phase rfl hphase hover⟩
    · rintro ⟨hover, hgetsIn⟩
      obtain ⟨-, rfl⟩ := Prod.mk.inj (Option.some.inj (hgets hgetsIn))
      exact ⟨rfl, hover⟩
  · have hnothing : saidOn said k = [] := by
      unfold saidOn
      split
      next j word =>
        refine if_neg ?_
        rintro rfl
        exact hword ⟨word, rfl⟩
      next => rfl
    rw [hnothing, List.append_nil]
    exact (and_iff_left fun hlate => hword ⟨_, hgets hlate.2⟩).symm

/-- A moment at which a word is said that may come now, or none. -/
theorem Voiced.speaks (h : Voiced past course)
    (hspeaks : course.shared.Speaks (sessionRules.next course event).shared said)
    (hwritten : ∀ k, CourseMoment.written? k (course, event) = none)
    (hinTurn : ∀ k word, said = some (k, word) →
      ∃ phase, (phasesOf past k).bind (·.next? word) = some phase)
    (hlate : ∀ k phase, said = some (k, .work) → phasesOf past k = some phase →
      phase.isOver = true → CourseMoment.GetsIn k (course, event))
    (hgets : ∀ k, CourseMoment.GetsIn k (course, event) → said = some (k, .work))
    (hwelcomes : Welcomes ((phasesOf past).after said) (sessionRules.next course event).shared)
    (hfits : ∀ i task, Crowd.task? (sessionRules.next course event) i = some task →
      task.Fits ((phasesOf past).after said) (sessionRules.next course event).shared.writer) :
    Voiced (past ++ [(course, event)]) (sessionRules.next course event) := by
  have hsaid (k : LinkId) : CourseMoment.said k (course, event) = saidOn said k :=
    hspeaks.drop_words k
  have hphases : phasesOf (past ++ [(course, event)]) = (phasesOf past).after said :=
    phases_after hsaid
  constructor
  · exact h.engages.next event
  · intro k
    rw [hphases]
    cases said with
    | none => exact h.inTurn k
    | some pair =>
      obtain ⟨j, word⟩ := pair
      by_cases hj : k = j
      · subst hj
        simpa [Phases.after] using hinTurn k word rfl
      · simpa [Phases.after, Function.update_of_ne hj] using h.inTurn k
  · intro k hk
    have hle : course.shared.links.length ≤ k := Nat.le_trans hspeaks.length_le hk
    rw [spoken_concat, h.unborn k hle, hsaid, hspeaks.saidOn_of_le hle]
    rfl
  · rwa [hphases]
  · rwa [hphases]
  · intro k
    rw [spoken_concat, written_concat, hsaid, hwritten]
    simpa using hspeaks.follows (h.unborn k) (h.follows k)
  · exact fun k => h.order_concat _ (hsaid k) hinTurn (hlate k) (hgets k)

/-- An operation goes on, or ends. -/
theorem Voiced.put (h : Voiced past course) (hi : course.task? i = some task)
    {standing : Standing SessionTask (Option SessionReply)}
    (hnext : sessionRules.next course event = course.put i s' standing)
    (hwritten : ∀ k, CourseMoment.written? k (course, event) = none)
    (hgets : ∀ k, CourseMoment.GetsIn k (course, event) ↔ task.GetsIn course.shared k)
    (hproceeds : Proceeds (phasesOf past) course.shared task s' standing.point? said) :
    Voiced (past ++ [(course, event)]) (sessionRules.next course event) := by
  have hshared : (sessionRules.next course event).shared = s' := congrArg Crowd.shared hnext
  have hspeaks : course.shared.Speaks (sessionRules.next course event).shared said :=
    hshared ▸ hproceeds.speaks
  refine h.speaks hspeaks hwritten hproceeds.inTurn
    (fun k phase hsaid hphase hover => (hgets k).mpr (hproceeds.late k phase hsaid hphase hover))
    (fun k hgetsIn => hproceeds.getsIn k ((hgets k).mp hgetsIn)) (hshared ▸ hproceeds.welcomes) ?_
  intro j other hj
  rw [hnext] at hj ⊢
  by_cases hji : i = j
  · subst hji
    rw [Crowd.task?_put_self hi] at hj
    exact hproceeds.fits other hj
  rw [Crowd.task?_put_of_ne hji] at hj
  have hbefore := h.fits j other hj
  by_cases hidle : ∀ ticket, ¬task.Entered ticket
  · obtain ⟨hsame, hwriter⟩ := hproceeds.aside hidle
    rw [hsame]
    exact hbefore.mono hwriter
  · -- Whoever else is there while someone is at work relies on little.
    have hinside : course.Inside i := by
      obtain ⟨ticket, hentered⟩ := not_forall_not.mp hidle
      exact ⟨task, ticket, hi, hentered⟩
    have hidle := (h.engages.line.waits hj hinside (Ne.symm hji)).1
    refine hbefore.aside hidle fun k phase hphase hwork => ?_
    cases hsaid : said with
    | none => exact ⟨phase, hphase, hwork⟩
    | some pair =>
      obtain ⟨l, word⟩ := pair
      by_cases hl : k = l
      · subst hl
        obtain ⟨phase', hphase'⟩ := hproceeds.inTurn k word hsaid
        refine ⟨phase', by simpa [Phases.after] using hphase', ?_⟩
        rw [hphase] at hphase'
        exact Phase.isAtWork_of_next? hphase' hwork
      · exact ⟨phase, by simpa [Phases.after, Function.update_of_ne hl] using hphase, hwork⟩

/-- Work that gets in does not have to wait. -/
theorem not_blocked_of_getsIn {now : Instant} (h : task.GetsIn s k) :
    (task.step now s).2 ≠ .blocked := by
  obtain ⟨send, hlate, -, hsent⟩ := h
  have hstep : ∃ m, send.step s = (m, .finished true) := ⟨_, Prod.ext rfl hsent⟩
  obtain ⟨m, hstep⟩ := hstep
  unfold SessionTask.late? at hlate
  split at hlate
  next query reply found =>
    obtain rfl := Option.some.inj hlate
    simp only [SessionTask.step, QueryPoint.step, CallPoint.step, hstep]
    rintro ⟨⟩
  next found =>
    obtain rfl := Option.some.inj hlate
    simp only [SessionTask.step, NoticePoint.step, hstep]
    rintro ⟨⟩
  next => cases hlate

/-- A step that is heard of gets work in exactly if the operation does. -/
theorem getsIn_iff {input : Unit} (hi : course.task? i = some task) (k : LinkId) :
    CourseMoment.GetsIn k (course, .step i input) ↔ task.GetsIn course.shared k := by
  constructor
  · rintro ⟨j, other, progress, hstep, hgets⟩
    obtain ⟨_, hevent, hj, -⟩ := sessionRules.step?_eq_some hstep
    cases hevent
    obtain rfl : task = other := Option.some.inj (hi.symm.trans hj)
    exact hgets
  · exact fun hgets => ⟨i, task, _, sessionRules.step?_step hi, hgets⟩

/-- Nothing happens to the session, and nobody goes on. -/
theorem Voiced.same (h : Voiced past course)
    (hshared : (sessionRules.next course event).shared = course.shared)
    (hwritten : ∀ k, CourseMoment.written? k (course, event) = none)
    (hgets : ∀ k, ¬CourseMoment.GetsIn k (course, event))
    (hfits : ∀ i task, Crowd.task? (sessionRules.next course event) i = some task →
      course.task? i = some task ∨ ∀ phases writer, task.Fits phases writer) :
    Voiced (past ++ [(course, event)]) (sessionRules.next course event) := by
  have hspeaks : course.shared.Speaks (sessionRules.next course event).shared none := by
    rw [hshared]
    exact .hush (.refl _)
  refine h.speaks hspeaks hwritten
    (by rintro _ _ ⟨⟩) (by rintro _ _ ⟨⟩) (fun k hgetsIn => absurd hgetsIn (hgets k))
    (by rw [hshared]; exact h.welcomes) fun i task hi => ?_
  rcases hfits i task hi with hbefore | hall
  · rw [hshared]
    exact h.fits i task hbefore
  · exact hall _ _

/-- What is no step of an operation. -/
theorem Voiced.occur (h : Voiced past course) (event : SessionEvent) :
    Voiced (past ++ [(course, .occur event)]) (sessionRules.next course (.occur event)) := by
  have hdrift := drift_undergo course.now event course.shared
  have hsaid (k : LinkId) : CourseMoment.said k (course, .occur event) = saidOn none k := by
    have hhears := hears_undergo course.now event course.shared k
    show ((course.shared.undergo course.now event).voice k).words.drop _ = []
    generalize course.shared.taken? k event = word? at hhears
    cases hhears with
    | takes word rest words voice => simp [words, voice]
    | stays voice => rw [voice, List.drop_length]
    | ends voice => rw [voice]; exact List.drop_nil
  have hspoken (k : LinkId) : spoken (past ++ [(course, .occur event)]) k = spoken past k := by
    rw [spoken_concat, hsaid]
    exact List.append_nil _
  have hphases : phasesOf (past ++ [(course, .occur event)]) = phasesOf past := by
    rw [phases_after hsaid]
    rfl
  constructor
  · exact h.engages.next (.occur event)
  · rw [hphases]
    exact h.inTurn
  · intro k hk
    rw [hspoken]
    exact h.unborn k (hdrift.length ▸ hk)
  · rw [hphases]
    exact h.welcomes.aside hdrift.aside
  · intro i task hi
    rw [hphases]
    exact (h.fits i task hi).mono hdrift.writer
  · intro k
    have hfollows := h.follows k
    have hhears := hears_undergo course.now event course.shared k
    have hword :
        CourseMoment.written? k (course, .occur event) = course.shared.taken? k event := rfl
    rw [hspoken, written_concat, hword]
    show ((course.shared.undergo course.now event).voice k).Follows _ _
    generalize course.shared.taken? k event = word? at hhears ⊢
    cases hhears with
    | takes word rest words voice =>
      rw [voice]
      exact hfollows.take words
    | stays voice => simpa [voice] using hfollows
    | ends voice => simpa [voice] using Voice.Follows.gone hfollows.prefix_spoken
  · refine fun k => h.order_concat _ (hsaid k) (by rintro _ _ ⟨⟩) (by rintro _ ⟨⟩) ?_
    rintro ⟨i, task, progress, ⟨⟩, -⟩

theorem Voiced.next (h : Voiced past course) (event : CourseEvent)
    (hfair : CourseEvent.isFair event = true) :
    Voiced (past ++ [(course, event)]) (sessionRules.next course event) := by
  have hmoves := sessionRules.next_moves course event
  generalize hnext : sessionRules.next course event = course' at hmoves
  rw [← hnext]
  cases hmoves with
  | blocks i input blocked =>
    refine h.same (by rw [hnext]) (fun _ => rfl) ?_ fun j task hj => .inl (hnext ▸ hj)
    rintro k ⟨j, task, progress, hstep, hgets⟩
    obtain ⟨_, hevent, hj, -⟩ := sessionRules.step?_eq_some hstep
    cases hevent
    exact not_blocked_of_getsIn hgets (blocked task hj)
  | misses i stands =>
    exact h.same (by rw [hnext]) (fun _ => rfl) (by rintro k ⟨_, _, _, ⟨⟩, -⟩)
      fun j task hj => .inl (hnext ▸ hj)
  | waits time =>
    exact h.same rfl (fun _ => rfl) (by rintro k ⟨_, _, _, ⟨⟩, -⟩) fun j task hj => .inl hj
  | begins call =>
    refine h.same rfl (fun _ => rfl) (by rintro k ⟨_, _, _, ⟨⟩, -⟩) fun j task hj => ?_
    rw [hnext] at hj
    by_cases hlast : j = course.tasks.length
    · rw [hlast, Crowd.task?_concat_self] at hj
      obtain rfl := Option.some.inj hj
      refine .inr fun phases writer => ?_
      cases call with
      | ensure | ask | stop | reset | checkAlive => trivial
      | notify notice =>
        cases notice with
        | didOpen | didClose => rfl
        | initialized | exit => cases hfair
    · rw [Crowd.task?_concat_of_ne hlast] at hj
      exact .inl hj
  | moves i input task task' shared stands step =>
    have hstep : task.step course.now course.shared = (shared, .moved task') := step
    obtain ⟨said, hproceeds⟩ := task.proceeds_step course.now (h.fits i task stands) h.welcomes
      h.silent (fun ticket => h.engages.engaged i task ticket stands) (by rw [hstep]; rintro ⟨⟩)
    rw [hstep] at hproceeds
    exact h.put stands hnext (fun _ => rfl) (getsIn_iff stands) hproceeds
  | finishes i input task result shared stands step =>
    have hstep : task.step course.now course.shared = (shared, .finished result) := step
    obtain ⟨said, hproceeds⟩ := task.proceeds_step course.now (h.fits i task stands) h.welcomes
      h.silent (fun ticket => h.engages.engaged i task ticket stands) (by rw [hstep]; rintro ⟨⟩)
    rw [hstep] at hproceeds
    exact h.put stands hnext (fun _ => rfl) (getsIn_iff stands) hproceeds
  | givesUp i task stands =>
    obtain ⟨hhush, hstate, hwriter⟩ := task.hush_cancel course.shared
    have hshared : (sessionRules.next course (.giveUp i)).shared = task.cancel course.shared :=
      congrArg Crowd.shared hnext
    have hspeaks : course.shared.Speaks (sessionRules.next course (.giveUp i)).shared none :=
      hshared ▸ .hush hhush
    refine h.speaks hspeaks (fun _ => rfl) (by rintro _ _ ⟨⟩)
      (by rintro _ _ ⟨⟩) (by rintro k ⟨_, _, _, ⟨⟩, -⟩) ?_ fun j other hj => ?_
    · rw [hshared]
      exact fun haccepts k hk => h.welcomes (hstate ▸ haccepts) k (hwriter ▸ hk)
    · rw [hshared]
      rw [hnext] at hj
      by_cases hji : i = j
      · subst hji
        rw [Crowd.task?_put_self stands] at hj
        cases hj
      · rw [Crowd.task?_put_of_ne hji] at hj
        exact (h.fits j other hj).mono (.inl hwriter)
  | occurs event => exact h.occur event

theorem voiced_start (settings : SessionSettings) (hello : Except String ClientHello) :
    Voiced [] (start settings hello) where
  engages := engages_after settings hello []
  inTurn := fun _ => ⟨.silent, rfl⟩
  unborn := fun _ _ => rfl
  welcomes := by rintro ⟨⟩
  fits := by rintro i task ⟨⟩
  follows := fun _ => .gone List.nil_prefix
  order := fun _ => by
    refine iff_of_true lifecycle_nil ?_
    rintro ⟨before, moment, later, heq, -⟩
    simp at heq

theorem voiced_after (settings : SessionSettings) (hello : Except String ClientHello)
    (events : List CourseEvent) (hfair : ∀ event ∈ events, CourseEvent.isFair event = true) :
    Voiced (sessionRules.history (start settings hello) events)
      (sessionRules.after (start settings hello) events) := by
  induction events using List.reverseRecOn with
  | nil => exact voiced_start settings hello
  | append_singleton events event ih =>
    rw [sessionRules.history_concat, sessionRules.after_concat]
    exact (ih fun other hother => hfair other (List.mem_append_left _ hother)).next event
      (hfair event List.mem_concat_self)

/-- **The order in which a client speaks.**  Any course of a session, whatever its servers do,
    whoever calls it and whoever gives up. On every connection the client's own messages are written
    in the order in which they were said, and that order is the one of the protocol but for work that
    comes behind the farewell: so there is no exit without a farewell before it, and nothing is said
    before the greeting was answered and confirmed. Work comes behind the farewell exactly if it had
    waited for room in the outbox, and got in when the farewell was there already. -/
theorem lifecycle_iff_not_overtaken (settings : SessionSettings)
    (hello : Except String ClientHello) (events : List CourseEvent)
    (hfair : ∀ event ∈ events, CourseEvent.isFair event = true) (k : LinkId) :
    let past := sessionRules.history (start settings hello) events
    written past k <+: spoken past k ∧ InTurn (spoken past k) ∧
      (Lifecycle (spoken past k) ↔ ¬Overtaken past k) := by
  intro past
  have hvoiced : Voiced past _ := voiced_after settings hello events hfair
  obtain ⟨phase, hphase⟩ := hvoiced.inTurn k
  exact ⟨(hvoiced.follows k).prefix_spoken, inTurn_of_phase? hphase, hvoiced.order k⟩

/-- A server is launched and answers the greeting. -/
def answeredGreeting : List CourseEvent :=
  let answer := "\x7b\"id\":1,\"result\":\x7b\"capabilities\":\x7b\x7d\x7d\x7d"
  [.begin .ensure, .step 0 (), .step 0 (), .occur (.launched (.ok .absent)), .step 0 (), .step 0 (),
    .occur (.write 0), .occur (.hear 0 (.bytes (frameBytes answer.toUTF8))), .step 0 ()]

/-- A document is closed, and then the session. -/
theorem lifecycle_iff_not_overtaken_politely :
    let begun := start {} (.ok ⟨"file:///ws", "ws"⟩)
    let events := answeredGreeting ++ [.begin (.notify (.didClose "file:///ws/a.rs")), .step 1 (),
      .begin .stop, .step 2 (), .step 2 (), .step 2 ()]
    let past := sessionRules.history begun events
    (∀ event ∈ events, CourseEvent.isFair event = true) ∧
      spoken past 0 = [.hello, .confirmation, .work, .farewell] ∧
      written past 0 <+: spoken past 0 ∧ InTurn (spoken past 0) ∧
      (Lifecycle (spoken past 0) ↔ ¬Overtaken past 0) := by
  intro begun events past
  exact ⟨by decide, by decide +kernel,
    lifecycle_iff_not_overtaken {} (.ok ⟨"file:///ws", "ws"⟩) events (by decide) 0⟩

/-! ### Work that comes late -/

/-- The number of bytes that the writer of a link holds. -/
def heldBytes (s : Session) (id : LinkId) : Nat :=
  ((s.links[id]?).bind Link.unwritten?).elim 0 ByteArray.size

/-- The server has taken all that the writer of a link holds. -/
def allTaken (s : Session) (id : LinkId) : Session :=
  s.updateLink id fun link => match link.writer with
    | .writing _ => { link with writer := .taking }
    | _ => link

theorem undergo_written_held (now : Instant) (s : Session) (id : LinkId) :
    s.undergo now (.written id (heldBytes s id)) = allTaken s id := by
  show s.updateLink id (·.written (heldBytes s id)) = _
  have hlinks : s.links.modify id (·.written (heldBytes s id)) = (allTaken s id).links := by
    refine List.ext_getElem? fun k => ?_
    simp only [allTaken, updateLink, List.getElem?_modify]
    split
    next hk =>
      subst hk
      cases hlink : s.links[id]? with
      | none => rfl
      | some link =>
        have hheld : heldBytes s id = link.unwritten?.elim 0 ByteArray.size := by
          rw [heldBytes, hlink]
          rfl
        simp only [Option.map_eq_map, Option.map_some, hheld, Link.written, Link.unwritten?]
        cases link.writer with
        | taking | done => rfl
        | writing rest => simp [ByteArray.isEmpty]
    next => rfl
  exact congrArg (fun links => { s with links }) hlinks

/-- The outbox of a session is filled, one more question waits for room, and the session is closed.
    The writer takes two items: the first room is given to the question, and the farewell finds the
    second one. The question goes on behind it, and everything is written. -/
def crowdedFarewell : List CourseEvent :=
  let writes : List CourseEvent := [.occur (.written 0 1000), .occur (.write 0)]
  (List.range 63).flatMap (fun i => [.begin (.notify (.didClose "")), .step (i + 1) ()]) ++
    [.begin (.ask (.workspaceSymbols "")), .step 64 (), .begin .stop, .step 65 (), .step 65 (),
      .occur (.write 0)] ++ writes ++ [.step 65 (), .step 64 ()] ++
    (List.replicate 64 writes).flatten

/-- The client does not always speak in order. -/
theorem not_forall_lifecycle :
    ¬∀ (settings : SessionSettings) (hello : Except String ClientHello) (events : List CourseEvent),
      (∀ event ∈ events, CourseEvent.isFair event = true) →
        ∀ k, Lifecycle (written (sessionRules.history (start settings hello) events) k) := by
  intro h
  let begun := start {} (.ok ⟨"file:///ws", "ws"⟩)
  let answered : SessionCourse := sessionRules.after begun answeredGreeting
  let taken : CourseEvent := .occur (.written 0 (heldBytes answered.shared 0))
  -- How long the greeting is does not matter: the server takes all of it.
  have htaken : sessionRules.next answered taken =
      { answered with shared := allTaken answered.shared 0 } :=
    congrArg (fun shared => { answered with shared })
      (undergo_written_held answered.now answered.shared 0)
  have hgreeting : written (sessionRules.history begun answeredGreeting) 0 = [.hello] := by
    decide +kernel
  have hcrowded : written (sessionRules.history
      { answered with shared := allTaken answered.shared 0 } crowdedFarewell) 0 =
      .confirmation :: List.replicate 63 .work ++ [.farewell] ++ [.work] := by
    decide +kernel
  have hfair : ∀ event ∈ answeredGreeting ++ taken :: crowdedFarewell,
      CourseEvent.isFair event = true := by
    simp only [List.forall_mem_append, List.forall_mem_cons]
    exact ⟨by decide, rfl, by decide +kernel⟩
  have hwritten :
      written (sessionRules.history begun (answeredGreeting ++ taken :: crowdedFarewell)) 0 =
        (.hello :: .confirmation :: List.replicate 63 .work ++ [.farewell]) ++ [.work] := by
    have hnothing : CourseMoment.written? 0 (answered, taken) = none := rfl
    rw [sessionRules.history_append, written, List.filterMap_append]
    show written (sessionRules.history begun answeredGreeting) 0 ++
      List.filterMap (CourseMoment.written? 0) ((answered, taken) ::
        sessionRules.history (sessionRules.next answered taken) crowdedFarewell) = _
    rw [List.filterMap_cons_none hnothing, htaken, hgreeting]
    exact congrArg ([Utterance.hello] ++ ·) hcrowded
  have hlifecycle := h {} (.ok ⟨"file:///ws", "ws"⟩) (answeredGreeting ++ taken :: crowdedFarewell)
    hfair 0
  rw [hwritten] at hlifecycle
  exact not_lifecycle_of_work (by simp) hlifecycle

end SessionCourse
end SymbolSearch
