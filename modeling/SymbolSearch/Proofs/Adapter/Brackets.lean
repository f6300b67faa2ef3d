import SymbolSearch.Proofs.Adapter.Documents

/-!
# Brackets around questions about documents

A question about a document opens it at the server, asks, and closes it again. This file shows that
these brackets never overlap, and that each that was opened is closed once.

* `AdapterCourse.Sound` — what holds after any events.
* `AdapterCourse.blocked_of_works` — while one question works with a document, no other question
  about it can go on.
* `AdapterCourse.Counted` — how often a question has opened and closed its document.
* `AdapterCourse.Bracketed` — what is promised; `AdapterCourse.bracketed_after` shows it.
-/

namespace SymbolSearch

/-- Whether a question has its document open, and has not begun to close it. -/
def DocumentStage.isInside : DocumentStage → Bool
  | .inside _ _ => true
  | _ => false

namespace AdapterTask

/-- Whether a step opens a document at the server. -/
def opens (task : AdapterTask) (progress : Progress AdapterTask AdapterReply) : Bool :=
  !task.stage.isInside && (task.stageAfter progress).isInside

/-- Whether with a step the question has its outcome, good or bad, and the server is told to close
    the document, as far as it can be told. -/
def triesToClose (task : AdapterTask) (progress : Progress AdapterTask AdapterReply) : Bool :=
  task.stage.isInside && !(task.stageAfter progress).isInside

end AdapterTask

namespace AdapterMoment

/-- An operation goes on, and opens its document at the server. -/
def Opens (moment : AdapterMoment) (i : Nat) (uri : String) : Prop :=
  ∃ task progress, adapterRules.step? moment = some (i, task, progress) ∧
    task.stage.uri? = some uri ∧ task.opens progress = true

/-- An operation goes on, and tries to close its document. -/
def TriesToClose (moment : AdapterMoment) (i : Nat) (uri : String) : Prop :=
  ∃ task progress, adapterRules.step? moment = some (i, task, progress) ∧
    task.stage.uri? = some uri ∧ task.triesToClose progress = true

/-- A question about a document has its outcome, and right behind it the server is told to close the
    document. -/
def TellsToClose (moment : AdapterMoment) (uri : String) : Prop :=
  ∃ (call : QueryPoint) (listeners : List (String × Broadcast Json)) (middle : Session)
    (result : Except SessionError Answer),
    call.step moment.1.now (moment.1.shared.withListeners listeners).session =
        (middle, .finished result) ∧
      (adapterRules.next moment.1 moment.2).shared.session =
        ((NoticePoint.starting (.didClose uri)).step middle).1

end AdapterMoment

open AdapterMoment

/-- To try to close a document is to tell the server, behind the outcome of the question. -/
theorem InquiryPoint.tells_of_triesToClose {now : Instant} {files : Option Tree}
    {adapter : Adapter} {point : InquiryPoint} {uri : String}
    (huri : point.stage.uri? = some uri)
    (htries : (AdapterTask.inquiry point).triesToClose
      ((AdapterTask.inquiry point).step now files adapter).2 = true) :
    ∃ (call : QueryPoint) (listeners : List (String × Broadcast Json)) (middle : Session)
      (result : Except SessionError Answer),
      call.step now (adapter.withListeners listeners).session = (middle, .finished result) ∧
        (point.step now files adapter).1.session =
          ((NoticePoint.starting (.didClose uri)).step middle).1 := by
  have hmoves := point.step_moves now files adapter
  simp only [AdapterTask.triesToClose, AdapterTask.step, Stepped.map, Bool.and_eq_true,
    Bool.not_eq_true'] at htries
  obtain ⟨hinside, hafter⟩ := htries
  generalize point.step now files adapter = stepped at hmoves hafter ⊢
  have hblocked (h : stepped.2 = .blocked) : False := by
    rw [h] at hafter
    exact Bool.false_ne_true (hafter.symm.trans hinside)
  cases hmoves with
  | blocks => exact (hblocked rfl).elim
  | closing _ bracket call listeners middle s' result notice before answered step =>
    obtain rfl : bracket.uri = uri := by
      cases before <;> exact Option.some.inj huri
    exact ⟨call, listeners, middle, result, answered, by rw [step]⟩
  | closed _ bracket call listeners middle s' result sent before answered step =>
    obtain rfl : bracket.uri = uri := by
      cases before <;> exact Option.some.inj huri
    refine ⟨call, listeners, middle, result, answered, ?_⟩
    rw [(leave_eq now bracket { adapter with session := s' } result).1, step]
  | asking _ bracket call call' listeners s' before step => cases hafter
  | opening _ bracket listener notice notice' listeners s' before step
  | opened _ bracket listener notice listeners s' resume before step
  | unopened _ bracket listener notice listeners listeners' s' reason before step =>
    cases before <;> cases hinside
  | unaskable | remembers | shuns | reads | asks | unreadable | joins | stillCloses | leaves
  | stillAsks | concludes | scans => cases hinside

namespace AdapterCourse

variable {course : AdapterCourse} {event : AdapterCourseEvent} {i j : Nat} {task : AdapterTask}
  {progress : Progress AdapterTask AdapterReply} {uri : String} {past : List AdapterMoment}

/-! ### What holds after any events -/

/-- Everything that is said fits to what was asked, the guards are in good order, and what was said
    and not written yet is still in its outbox. -/
structure Sound (course : AdapterCourse) : Prop where
  fits : course.Fits
  locked : course.IsLocked
  follows : ∃ spoken written, course.shared.session.Follows spoken written

/-- What was said on a link. -/
def spokenIn (past : List AdapterMoment) (k : LinkId) : List Outgoing := past.flatMap (said · k)

/-- What was taken to be written on a link. -/
def writtenIn (past : List AdapterMoment) (k : LinkId) : List Outgoing := past.flatMap (taken · k)

section After

variable (ecosystem : Ecosystem) (root : Path) (server : ServerConfig) (session : SessionSettings)
  (settings : AdapterSettings)

/-- What was written was said before, in this order. -/
theorem follows_after (events : List AdapterCourseEvent) :
    (adapterRules.after (start ecosystem root server session settings) events).shared.session.Follows
      (spokenIn (adapterRules.history (start ecosystem root server session settings) events))
      (writtenIn (adapterRules.history (start ecosystem root server session settings) events)) := by
  have hboth := adapterRules.history_induction
    (motive := fun past course => Fits course ∧
      course.shared.session.Follows (spokenIn past) (writtenIn past))
    ⟨fits_start ecosystem root server session settings, ?_, fun _ _ => rfl⟩
    (fun past course event h => ?_) events
  · exact hboth.2
  · exact fun k => ⟨by rintro items ⟨⟩, fun _ => rfl, List.prefix_refl _⟩
  · obtain ⟨-, -, hfollows, -⟩ := h.1.next_tells h.2 event
    refine ⟨h.1.next event, ?_⟩
    unfold spokenIn writtenIn
    simp only [List.flatMap_append, List.flatMap_singleton]
    exact hfollows

theorem sound_after (events : List AdapterCourseEvent) :
    Sound (adapterRules.after (start ecosystem root server session settings) events) where
  fits := fits_after ecosystem root server session settings events
  locked := isLocked_after ecosystem root server session settings events
  follows := ⟨_, _, follows_after ecosystem root server session settings events⟩

/-- What is said about documents at a moment. -/
theorem tells_of_mem {events : List AdapterCourseEvent} {moment : AdapterMoment}
    (hmem : moment ∈ adapterRules.history (start ecosystem root server session settings) events) :
    ∃ word?, (∀ k, words moment k = wordsOn word? k) ∧
      moment.1.Tells (adapterRules.next moment.1 moment.2) moment.2 word? := by
  obtain ⟨before, later, hpast⟩ := List.append_of_mem hmem
  obtain ⟨earlier, -, hmoment⟩ := adapterRules.history_split hpast
  have hsound := sound_after ecosystem root server session settings earlier
  rw [hmoment] at hsound
  obtain ⟨spoken, written, hfollows⟩ := hsound.follows
  obtain ⟨word?, hwords, -, htells⟩ := hsound.fits.next_tells hfollows moment.2
  exact ⟨word?, hwords, htells⟩

end After

/-! ### One question at a time -/

theorem uri?_stageAt (course : AdapterCourse) (i : Nat) :
    (course.stageAt i).uri? = (course.claimOf i).map (·.uri) := by
  rw [stageAt, claimOf, inquiryAt, Crowd.task?]
  cases course.tasks[i]? with
  | none => rfl
  | some standing =>
    cases standing with
    | ended => rfl
    | waiting task =>
      cases task with
      | onSession => rfl
      | inquiry point => cases point <;> rfl

/-- A question waits for the guard of its document, or has got it. -/
theorem claim_of_stageAt (huri : (course.stageAt i).uri? = some uri) :
    ∃ claim, course.claimOf i = some claim ∧ claim.uri = uri ∧
      (claim.inside = false → ∃ bracket text,
        course.task? i = some (.inquiry (.queued bracket text)) ∧ claim = bracket.claim false) := by
  rw [uri?_stageAt] at huri
  obtain ⟨claim, hclaim, rfl⟩ := Option.map_eq_some_iff.mp huri
  refine ⟨claim, hclaim, rfl, fun hinside => ?_⟩
  rw [claimOf, inquiryAt] at hclaim
  obtain ⟨point, hpoint, hclaim⟩ := Option.bind_eq_some_iff.mp hclaim
  obtain ⟨task, htask, hinquiry⟩ := Option.bind_eq_some_iff.mp hpoint
  cases task with
  | onSession => cases hinquiry
  | inquiry found =>
    obtain rfl := Option.some.inj hinquiry
    cases found with
    | queued bracket text =>
      obtain rfl := Option.some.inj hclaim
      exact ⟨bracket, text, htask, rfl⟩
    | starting | reading | asking | scanning => cases hclaim
    | opening | settling | askingInside | closing =>
      obtain rfl := Option.some.inj hclaim
      cases hinside

/-- A question whose document was opened, or is being opened, has got the guard. -/
theorem inside_of_stageAt (huri : (course.stageAt i).uri? = some uri)
    (hstage : course.stageAt i ≠ .opening uri none) :
    ∃ claim, course.claimOf i = some claim ∧ claim.uri = uri ∧ claim.inside = true := by
  obtain ⟨claim, hclaim, rfl, hqueued⟩ := claim_of_stageAt huri
  refine ⟨claim, hclaim, rfl, ?_⟩
  cases hinside : claim.inside with
  | true => rfl
  | false =>
    obtain ⟨bracket, text, htask, rfl⟩ := hqueued hinside
    exact absurd (stageAt_eq htask) hstage

/-- While one question works with a document, no other question about it can go on. -/
theorem blocked_of_works (h : course.IsLocked) (hi : (course.stageAt i).uri? = some uri)
    (hworks : course.stageAt i ≠ .opening uri none)
    (hstep : adapterRules.step? (course, event) = some (j, task, progress))
    (huri : task.stage.uri? = some uri) (hne : j ≠ i) : progress = .blocked := by
  obtain ⟨claim, hclaim, rfl, hinside⟩ := inside_of_stageAt hi hworks
  obtain ⟨files, -, hj, rfl⟩ := adapterRules.step?_eq_some hstep
  have hstage : (course.stageAt j).uri? = some claim.uri := by rw [stageAt_eq hj, huri]
  obtain ⟨claim', hclaim', huri', hqueued⟩ := claim_of_stageAt hstage
  cases hinside' : claim'.inside with
  | true => exact absurd (h.exclusive hclaim' hclaim huri' hinside' hinside) hne
  | false =>
    obtain ⟨bracket, text, htask, rfl⟩ := hqueued hinside'
    obtain rfl := Option.some.inj (hj.symm.trans htask)
    have hholds := h.not_holds hclaim hclaim' huri'.symm hinside hne
    show (InquiryPoint.step course.now files (.queued bracket text) course.shared).2.map _ _ = _
    unfold InquiryPoint.step
    dsimp only
    rw [if_neg (by rw [show (course.shared.guardAt bracket.guard).turns.holds bracket.ticket = false
      from hholds]; exact Bool.false_ne_true)]
    rfl

/-! ### Opened once, closed once -/

/-- How often an operation has opened a document. -/
def openings (past : List AdapterMoment) (i : Nat) : Nat :=
  adapterRules.stepsOf AdapterTask.opens past i

/-- How often an operation has tried to close a document. -/
def closings (past : List AdapterMoment) (i : Nat) : Nat :=
  adapterRules.stepsOf AdapterTask.triesToClose past i

/-- How often an operation has opened its document and has tried to close it. -/
def Counted (past : List AdapterMoment) (i : Nat) : DocumentStage → Prop
  | .coming | .opening _ _ => openings past i = 0 ∧ closings past i = 0
  | .inside _ _ => openings past i = 1 ∧ closings past i = 0
  | .closing _ _ | .gone => closings past i = openings past i ∧ openings past i ≤ 1

theorem Counted.moves {s : Session} {word? : Option (LinkId × DocumentWord)}
    {progress : Progress AdapterTask AdapterReply} {moment : AdapterMoment}
    (h : Counted past i task.stage) (hstep : adapterRules.step? moment = some (i, task, progress))
    (hmoves : DocumentMoves s task.stage word? (task.stageAfter progress)) :
    Counted (past ++ [moment]) i (task.stageAfter progress) := by
  have hopenings : openings (past ++ [moment]) i =
      openings past i + if task.opens progress then 1 else 0 := CrowdRules.stepsOf_of_step? hstep
  have hclosings : closings (past ++ [moment]) i =
      closings past i + if task.triesToClose progress then 1 else 0 :=
    CrowdRules.stepsOf_of_step? hstep
  unfold AdapterTask.opens at hopenings
  unfold AdapterTask.triesToClose at hclosings
  generalize task.stage = before at h hmoves hopenings hclosings
  generalize task.stageAfter progress = after at hmoves hopenings hclosings ⊢
  have hends {uri : String} {waiting? : Option SendPoint}
      (hbefore : before = .inside uri waiting? ∨ before = .closing uri waiting?)
      (hafter : after.isInside = false) :
      closings (past ++ [moment]) i = openings (past ++ [moment]) i ∧
        openings (past ++ [moment]) i ≤ 1 := by
    rw [hopenings, hclosings, hafter]
    rcases hbefore with rfl | rfl
    · obtain ⟨hopened, hclosed⟩ := h
      simp [DocumentStage.isInside, hopened, hclosed]
    · simpa [Counted, DocumentStage.isInside] using h
  cases hmoves with
  | comes | joins | waits | asks | asksLater | stays =>
    simpa [Counted, hopenings, hclosings, DocumentStage.isInside] using h
  | passes | fails =>
    obtain ⟨hopened, hclosed⟩ := h
    simp [Counted, hopenings, hclosings, DocumentStage.isInside, hopened, hclosed]
  | opens =>
    obtain ⟨hopened, hclosed⟩ := h
    simp [Counted, hopenings, hclosings, DocumentStage.isInside, hopened, hclosed]
  | closes _ uri waiting? k isOpen offers => exact hends isOpen rfl
  | closesLater _ uri waiting? send isOpen offers => exact hends isOpen rfl
  | leaves _ uri waiting? isOpen => exact hends isOpen rfl

/-- Steps of others do not count. -/
theorem Counted.others {moment : AdapterMoment} {stage : DocumentStage} (h : Counted past i stage)
    (hothers : ∀ task progress, adapterRules.step? moment = some (i, task, progress) →
      progress = .blocked) : Counted (past ++ [moment]) i stage := by
  have hzero (counts : AdapterTask → Progress AdapterTask AdapterReply → Bool)
      (hblocked : ∀ task, counts task .blocked = false) :
      adapterRules.stepsOf counts (past ++ [moment]) i = adapterRules.stepsOf counts past i := by
    by_cases hstep : ∃ task progress, adapterRules.step? moment = some (i, task, progress)
    · obtain ⟨task, progress, hstep⟩ := hstep
      rw [CrowdRules.stepsOf_of_step? hstep, hothers task progress hstep, hblocked]
      rfl
    · exact CrowdRules.stepsOf_of_others fun task progress hsome => hstep ⟨task, progress, hsome⟩
  have hopenings : openings (past ++ [moment]) i = openings past i :=
    hzero _ fun task => by simp [AdapterTask.opens, AdapterTask.stageAfter]
  have hclosings : closings (past ++ [moment]) i = closings past i :=
    hzero _ fun task => by simp [AdapterTask.triesToClose, AdapterTask.stageAfter]
  cases stage <;> simpa only [Counted, hopenings, hclosings] using h

theorem Sound.counted_next (hsound : course.Sound) (h : ∀ i, Counted past i (course.stageAt i))
    (hstays : ¬event.GivesUp) (i : Nat) :
    Counted (past ++ [(course, event)]) i (stageAt (adapterRules.next course event) i) := by
  obtain ⟨spoken, written, hfollows⟩ := hsound.follows
  obtain ⟨word?, -, -, htells⟩ := hsound.fits.next_tells hfollows event
  generalize adapterRules.next course event = course' at htells
  cases htells with
  | speaks j files task progress _ step goesOn moves stages =>
    obtain ⟨input, hevent, stands, -⟩ := adapterRules.step?_eq_some step
    rw [stages]
    by_cases hij : i = j
    · subst hij
      rw [Function.update_self]
      exact Counted.moves (by rw [← stageAt_eq stands]; exact h i) step moves
    · rw [Function.update_of_ne hij]
      refine (h i).others fun task' progress' hstep => ?_
      rw [step] at hstep
      cases hstep
      exact absurd rfl hij
  | keepsSilent _ waits stages =>
    rw [stages]
    exact (h i).others fun task progress => waits i task progress
  | givesUp j => exact absurd ⟨j, rfl⟩ hstays

section After

variable (ecosystem : Ecosystem) (root : Path) (server : ServerConfig) (session : SessionSettings)
  (settings : AdapterSettings)

theorem counted_after (events : List AdapterCourseEvent) (hstay : ∀ event ∈ events, ¬event.GivesUp)
    (i : Nat) :
    Counted (adapterRules.history (start ecosystem root server session settings) events) i
      (stageAt (adapterRules.after (start ecosystem root server session settings) events) i) := by
  induction events using List.reverseRecOn generalizing i with
  | nil => exact ⟨rfl, rfl⟩
  | append_singleton events event ih =>
    rw [adapterRules.history_concat, adapterRules.after_concat]
    exact (sound_after ecosystem root server session settings events).counted_next
      (ih fun other hother => hstay other (List.mem_append_left _ hother))
      (hstay event List.mem_concat_self) i

end After

/-! ### Brackets never overlap -/

theorem opens_iff {s : Session} {word? : Option (LinkId × DocumentWord)}
    {progress : Progress AdapterTask AdapterReply} {uri : String}
    (hmoves : DocumentMoves s task.stage word? (task.stageAfter progress)) :
    (∃ k, .opened uri ∈ wordsOn word? k) ↔
      task.stage.uri? = some uri ∧ task.opens progress = true := by
  unfold AdapterTask.opens
  generalize task.stage = before at hmoves ⊢
  generalize task.stageAfter progress = after at hmoves ⊢
  cases hmoves with
  | comes | joins | waits | asksLater | stays | passes | fails =>
    simp [wordsOn, DocumentStage.isInside]
  | asks uri' waiting? k =>
    simp [wordsOn, DocumentStage.isInside]
  | opens uri' waiting? k =>
    simp [wordsOn, DocumentStage.isInside, DocumentStage.uri?, eq_comm]
  | closes _ uri' waiting? k isOpen =>
    simp [wordsOn, DocumentStage.isInside]
  | closesLater _ uri' waiting? send isOpen =>
    simp [wordsOn, DocumentStage.isInside]
  | leaves _ uri' waiting? isOpen =>
    simp [wordsOn, DocumentStage.isInside]

/-- A server is told to open a document by a question that opens it. -/
theorem Tells.opened_iff {course' : AdapterCourse} {word? : Option (LinkId × DocumentWord)}
    (h : course.Tells course' event word?) :
    (∃ k, .opened uri ∈ wordsOn word? k) ↔ ∃ i, Opens (course, event) i uri := by
  cases h with
  | speaks i files task progress _ step goesOn moves stages =>
    rw [opens_iff moves]
    constructor
    · rintro ⟨huri, hopens⟩
      exact ⟨i, task, progress, step, huri, hopens⟩
    · rintro ⟨j, task', progress', hstep, huri, hopens⟩
      rw [step] at hstep
      cases hstep
      exact ⟨huri, hopens⟩
  | keepsSilent _ waits stages =>
    refine ⟨by simp [wordsOn], ?_⟩
    rintro ⟨j, task, progress, hstep, -, hopens⟩
    obtain rfl := waits j task progress hstep
    simp [AdapterTask.opens, AdapterTask.stageAfter] at hopens
  | givesUp =>
    refine ⟨by simp [wordsOn], ?_⟩
    rintro ⟨j, task, progress, hstep, -⟩
    cases hstep

/-- A question says nothing about other documents than its own. -/
theorem uri?_of_moves {s : Session} {before after : DocumentStage} {word : DocumentWord} {k : LinkId}
    (h : DocumentMoves s before (some (k, word)) after) : before.uri? = some word.uri := by
  cases h with
  | opens | asks => rfl
  | closes _ uri waiting? k isOpen =>
    rcases isOpen with rfl | rfl
    · rfl
    · rfl

/-- A word about a document is said by a question that has to do with the document. -/
theorem Tells.uri_of_word {course' : AdapterCourse} {word : DocumentWord} {k : LinkId}
    (h : course.Tells course' event (some (k, word))) :
    ∃ i task progress, adapterRules.step? (course, event) = some (i, task, progress) ∧
      progress ≠ .blocked ∧ task.stage.uri? = some word.uri := by
  cases h with
  | speaks i files task progress _ step goesOn moves stages =>
    exact ⟨i, task, progress, step, goesOn, uri?_of_moves moves⟩

theorem eq_of_mem_wordsOn {word? : Option (LinkId × DocumentWord)} {word : DocumentWord} {k : LinkId}
    (h : word ∈ wordsOn word? k) : word? = some (k, word) := by
  cases word? with
  | none => cases h
  | some found =>
    obtain ⟨j, other⟩ := found
    by_cases hk : k = j
    · obtain rfl : word = other := by simpa [wordsOn, hk] using h
      rw [hk]
    · simp [wordsOn, hk] at h

/-- What is promised of the brackets around questions about documents. -/
structure Bracketed (past : List AdapterMoment) (course : AdapterCourse) : Prop where
  /-- A server is told to open a document by a question that opens it, and only so. -/
  opened : ∀ moment ∈ past, ∀ uri, (∃ k, .opened uri ∈ words moment k) ↔ ∃ i, Opens moment i uri
  /-- From the time at which a question has opened its document until it tries to close it, no
      other question about the document goes on, and nobody else says anything about it. -/
  alone : ∀ (before between later : List AdapterMoment) (first second : AdapterMoment) (i : Nat)
    (uri : String), past = before ++ first :: between ++ second :: later → Opens first i uri →
      (∀ other ∈ between, ¬TriesToClose other i uri) →
        (∀ j task progress, adapterRules.step? second = some (j, task, progress) →
          task.stage.uri? = some uri → j ≠ i → progress = .blocked) ∧
        ∀ k, ∀ word ∈ words second k, word.uri = uri →
          ∃ task progress, adapterRules.step? second = some (i, task, progress)
  /-- A question opens a document at most once. It tries to close what it has opened once: it has
      done so, unless it has the document still open. -/
  once : ∀ i, openings past i ≤ 1 ∧
    closings past i + (if (course.stageAt i).isInside then 1 else 0) = openings past i
  /-- To try to close a document is to tell the server, behind the outcome of the question. -/
  closed : ∀ moment ∈ past, ∀ i uri, TriesToClose moment i uri → TellsToClose moment uri
  /-- Every document in the table is that of a question that waits for it or works with it. -/
  table : ∀ uri id, (uri, id) ∈ course.shared.openDocuments →
    ∃ i, (course.stageAt i).uri? = some uri

theorem tellsToClose_of_tries (h : TriesToClose (course, event) i uri) :
    TellsToClose (course, event) uri := by
  obtain ⟨task, progress, hstep, huri, htries⟩ := h
  obtain ⟨files, rfl, stands, rfl⟩ := adapterRules.step?_eq_some hstep
  cases task with
  | onSession => cases huri
  | inquiry point =>
    obtain ⟨call, listeners, middle, result, hcall, hclose⟩ :=
      InquiryPoint.tells_of_triesToClose huri htries
    refine ⟨call, listeners, middle, result, hcall, ?_⟩
    rw [← hclose]
    have hsession (shared : Adapter) (progress : Progress AdapterTask AdapterReply)
        (h : AdapterTask.step course.now files (.inquiry point) course.shared = (shared, progress)) :
        (point.step course.now files course.shared).1.session = shared.session :=
      congrArg (fun stepped => stepped.1.session) h
    have hmoves := adapterRules.next_moves course (.step i files)
    generalize adapterRules.next course (.step i files) = course' at hmoves
    cases hmoves with
    | blocks _ _ blocked =>
      have hblocked : ((AdapterTask.inquiry point).step course.now files course.shared).2 = .blocked :=
        blocked _ stands
      change (AdapterTask.inquiry point).triesToClose
        ((AdapterTask.inquiry point).step course.now files course.shared).2 = true at htries
      simp [hblocked, AdapterTask.triesToClose, AdapterTask.stageAfter] at htries
    | moves _ _ task task' shared stands' step =>
      obtain rfl := Option.some.inj (stands.symm.trans stands')
      exact (hsession shared _ step).symm
    | finishes _ _ task result' shared stands' step =>
      obtain rfl := Option.some.inj (stands.symm.trans stands')
      exact (hsession shared _ step).symm

theorem Counted.once {stage : DocumentStage} (h : Counted past i stage) :
    openings past i ≤ 1 ∧ closings past i + (if stage.isInside then 1 else 0) = openings past i := by
  cases stage with
  | coming | opening =>
    obtain ⟨hopened, hclosed⟩ := h
    simp [hopened, hclosed, DocumentStage.isInside]
  | inside =>
    obtain ⟨hopened, hclosed⟩ := h
    simp [hopened, hclosed, DocumentStage.isInside]
  | closing | gone =>
    obtain ⟨hsame, hle⟩ := h
    exact ⟨hle, hsame⟩

theorem eq_inside {stage : DocumentStage} (hinside : stage.isInside = true)
    (huri : stage.uri? = some uri) : ∃ waiting?, stage = .inside uri waiting? := by
  cases stage with
  | inside uri' waiting? =>
    obtain rfl := Option.some.inj huri
    exact ⟨waiting?, rfl⟩
  | coming | opening | closing | gone => cases hinside

/-- A question has only one document open. -/
theorem eq_inside_of_moves {s : Session} {before after : DocumentStage}
    {word? : Option (LinkId × DocumentWord)} (h : DocumentMoves s before word? after)
    (hinside : after.isInside = true) (huri : before.uri? = some uri) :
    ∃ waiting?, after = .inside uri waiting? := by
  refine eq_inside hinside ?_
  cases h with
  | opens | asks | asksLater => exact huri
  | comes | passes | stays | joins | waits | fails | closes | closesLater | leaves => cases hinside

theorem Sound.inside_of_opens (hsound : course.Sound) (h : Opens (course, event) i uri) :
    ∃ waiting?, stageAt (adapterRules.next course event) i = .inside uri waiting? := by
  obtain ⟨task, progress, hstep, huri, hopens⟩ := h
  obtain ⟨spoken, written, hfollows⟩ := hsound.follows
  obtain ⟨word?, -, -, htells⟩ := hsound.fits.next_tells hfollows event
  generalize adapterRules.next course event = course' at htells
  cases htells with
  | speaks j files task' progress' _ step goesOn moves stages =>
    rw [step] at hstep
    cases hstep
    rw [stages, Function.update_self]
    exact eq_inside_of_moves moves (Bool.and_eq_true_iff.mp hopens).2 huri
  | keepsSilent _ waits stages =>
    obtain rfl := waits i task progress hstep
    simp [AdapterTask.opens, AdapterTask.stageAfter] at hopens
  | givesUp => cases hstep

/-- A question that has opened its document has it open until it tries to close it. -/
theorem Sound.inside_next (hsound : course.Sound)
    (h : ∃ waiting?, course.stageAt i = .inside uri waiting?)
    (hstays : ¬(TriesToClose (course, event) i uri ∨ event.GivesUp)) :
    ∃ waiting?, stageAt (adapterRules.next course event) i = .inside uri waiting? := by
  obtain ⟨htries, hgivesUp⟩ := not_or.mp hstays
  obtain ⟨spoken, written, hfollows⟩ := hsound.follows
  obtain ⟨word?, -, -, htells⟩ := hsound.fits.next_tells hfollows event
  generalize adapterRules.next course event = course' at htells
  cases htells with
  | speaks j files task progress _ step goesOn moves stages =>
    by_cases hij : i = j
    · subst hij
      obtain ⟨waiting?, hstage⟩ := h
      obtain ⟨_, -, stands, -⟩ := adapterRules.step?_eq_some step
      rw [stageAt_eq stands] at hstage
      have huri : task.stage.uri? = some uri := by rw [hstage]; rfl
      rw [stages, Function.update_self]
      refine eq_inside_of_moves moves ?_ huri
      -- Otherwise it would try to close the document now.
      by_contra hinside
      refine htries ⟨task, progress, step, huri, ?_⟩
      rw [AdapterTask.triesToClose, hstage, Bool.eq_false_of_not_eq_true hinside]
      rfl
    · rw [stages, Function.update_of_ne hij]
      exact h
  | keepsSilent _ waits stages => rwa [stages]
  | givesUp j => exact absurd ⟨j, rfl⟩ hgivesUp

/-- What is said about a document while a question has it open is said by that question. -/
theorem Sound.speaks_of_inside (hsound : course.Sound)
    (h : ∃ waiting?, course.stageAt i = .inside uri waiting?) {k : LinkId} {word : DocumentWord}
    (hword : word ∈ words (course, event) k) (huri : word.uri = uri) :
    ∃ task progress, adapterRules.step? (course, event) = some (i, task, progress) := by
  obtain ⟨spoken, written, hfollows⟩ := hsound.follows
  obtain ⟨word?, hwords, -, htells⟩ := hsound.fits.next_tells hfollows event
  rw [hwords] at hword
  rw [eq_of_mem_wordsOn hword] at htells
  obtain ⟨j, task, progress, hstep, hgoesOn, hsays⟩ := htells.uri_of_word
  have hij : j = i := by
    by_contra hne
    obtain ⟨waiting?, hstage⟩ := h
    exact hgoesOn (blocked_of_works hsound.locked (by rw [hstage]; rfl) (by rw [hstage]; rintro ⟨⟩)
      hstep (huri ▸ hsays) hne)
  subst hij
  exact ⟨task, progress, hstep⟩

/-- A document with an entry in the table is that of the question with a claim to its guard. -/
theorem IsLocked.exists_uri?_of_entry (h : course.IsLocked) {id : GuardId}
    (hall : AllClaimed course.shared course.claimOf)
    (hmem : (uri, id) ∈ course.shared.openDocuments) : ∃ i, (course.stageAt i).uri? = some uri := by
  obtain ⟨i, claim, hclaim, hguard⟩ := hall (uri, id) hmem
  have hentry : (claim.uri, claim.guard) = (uri, id) :=
    List.inj_on_of_nodup_map h.ids (h.claimed i claim hclaim) hmem hguard
  refine ⟨i, ?_⟩
  rw [uri?_stageAt, hclaim]
  exact congrArg some (Prod.mk.inj hentry).1

section After

variable (ecosystem : Ecosystem) (root : Path) (server : ServerConfig) (session : SessionSettings)
  (settings : AdapterSettings)

/-- A question that has opened its document has it open at any later moment until it tries to close
    it. -/
theorem inside_until {events : List AdapterCourseEvent} (hstay : ∀ event ∈ events, ¬event.GivesUp)
    {before between later : List AdapterMoment} {first second : AdapterMoment}
    (hpast : adapterRules.history (start ecosystem root server session settings) events =
      before ++ first :: between ++ second :: later)
    (hopens : Opens first i uri) (hstays : ∀ other ∈ between, ¬TriesToClose other i uri) :
    second.1.Sound ∧ ∃ waiting?, second.1.stageAt i = .inside uri waiting? := by
  have hbetween (other) (hother : other ∈ between) :
      ¬(TriesToClose other i uri ∨ other.2.GivesUp) := by
    rintro (htries | hgivesUp)
    · exact hstays other hother htries
    · refine hstay other.2 ?_ hgivesUp
      rw [← adapterRules.map_history (start ecosystem root server session settings) events]
      apply List.mem_map_of_mem
      rw [hpast]
      simp [hother]
  exact CrowdRules.history_until
    (fun course : AdapterCourse => ∃ waiting?, course.stageAt i = .inside uri waiting?)
    (fun moment : AdapterMoment => Opens moment i uri)
    (fun moment : AdapterMoment => TriesToClose moment i uri ∨ moment.2.GivesUp)
    (sound_after ecosystem root server session settings)
    (fun _ _ hsound hopens => hsound.inside_of_opens hopens)
    (fun _ _ hsound hinside hstays => hsound.inside_next hinside hstays) hpast hopens hbetween

/-- As long as no operation is given up, brackets around questions about documents never overlap,
    and each that was opened is closed once, whatever the operations do side by side. -/
theorem bracketed_after (events : List AdapterCourseEvent)
    (hstay : ∀ event ∈ events, ¬event.GivesUp) :
    Bracketed (adapterRules.history (start ecosystem root server session settings) events)
      (adapterRules.after (start ecosystem root server session settings) events) := by
  constructor
  · intro moment hmem uri
    obtain ⟨word?, hwords, htells⟩ :=
      tells_of_mem ecosystem root server session settings hmem
    simp only [hwords]
    exact htells.opened_iff
  · intro before between later first second i uri hpast hopens hstays
    obtain ⟨hsound, hinside⟩ :=
      inside_until ecosystem root server session settings hstay hpast hopens hstays
    constructor
    · intro j task progress hstep huri hne
      obtain ⟨waiting?, hstage⟩ := hinside
      exact blocked_of_works hsound.locked (by rw [hstage]; rfl) (by rw [hstage]; rintro ⟨⟩)
        hstep huri hne
    · intro k word hword huri
      exact hsound.speaks_of_inside hinside hword huri
  · exact fun i => (counted_after ecosystem root server session settings events hstay i).once
  · exact fun moment _ i uri htries => tellsToClose_of_tries htries
  · intro uri id hmem
    have hsound := sound_after ecosystem root server session settings events
    exact hsound.locked.exists_uri?_of_entry
      (allClaimed_after ecosystem root server session settings events hstay) hmem

end After

/-- A server is launched, and answers the greeting. It knows about symbols of documents. -/
def greetedServer : List AdapterCourseEvent :=
  let answer :=
    "\x7b\"id\":1,\"result\":\x7b\"capabilities\":\x7b\"documentSymbolProvider\":true\x7d\x7d\x7d"
  [.begin .ensure, .step 0 none, .step 0 none, .occur (.happens (.launched (.ok .absent))),
    .step 0 none, .step 0 none, .occur (.happens (.write 0)),
    .occur (.happens (.hear 0 (.bytes (frameBytes answer.toUTF8)))), .step 0 none]

/-- A workspace with one document. -/
def oneDocument : Option Tree := some ⟨[(["ws"], .directory), (["ws", "a"], .file .empty false)]⟩

/-- Two questions about one document go on side by side. The server never answers the first one. -/
def twoQuestions : List AdapterCourseEvent :=
  greetedServer ++ [.begin (.ask (.document "/ws/a")), .begin (.ask (.document "/ws/a")),
    .step 1 none, .step 2 none, .step 1 oneDocument, .step 2 oneDocument, .step 2 none, .step 1 none,
    .step 2 none, .wait (.ofMillis 300), .step 1 none, .step 2 none, .wait (.ofSecs 10),
    .step 1 none, .step 2 none]

/-- The second question opens the document when the first one has closed it. -/
theorem bracketed_after_twoQuestions :
    let begun := start default "/ws" default {} {}
    let past := adapterRules.history begun twoQuestions
    (∀ event ∈ twoQuestions, ¬event.GivesUp) ∧
      past.flatMap (words · 0) = [.opened "file:///ws/a", .asked "file:///ws/a",
        .closed "file:///ws/a", .opened "file:///ws/a"] ∧
      Bracketed past (adapterRules.after begun twoQuestions) := by
  intro begun past
  have hstay : ∀ event ∈ twoQuestions, ¬event.GivesUp := by
    simp [twoQuestions, greetedServer, CrowdEvent.GivesUp]
  have hwords : past.flatMap (words · 0) = [.opened "file:///ws/a", .asked "file:///ws/a",
      .closed "file:///ws/a", .opened "file:///ws/a"] := by decide +kernel
  exact ⟨hstay, hwords, bracketed_after default "/ws" default {} {} twoQuestions hstay⟩

end AdapterCourse
end SymbolSearch
