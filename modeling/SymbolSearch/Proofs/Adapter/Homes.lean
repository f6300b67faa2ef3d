import SymbolSearch.Proofs.Adapter.Brackets
import SymbolSearch.Proofs.Session.Engaged
import SymbolSearch.Proofs.Session.Overtaking

/-!
# Where questions open their documents

A question looks up the connection for each of its messages. This file shows when a server is asked
about a document, or told to close it, that it was told to open before.

* `Orderly` — words of one connection, each about a document that is open there.
* `Homely` — words of one connection, each of a question that opened its document there.
* `Dwells` — where a question has opened its document, and that nobody has opened it on a newer
  connection.
* `AdapterCourse.orderly_iff_homely` — the first comes to the second in any course of an adapter.
* `AdapterCourse.not_forall_orderly` — a server that is started again while a question is under way
  is asked about a document that it does not know.
-/

namespace SymbolSearch

/-! ### Orders of words -/

namespace DocumentWord

/-- Whether a server has to have the document open. -/
def NeedsOpen : DocumentWord → Prop
  | .opened _ => False
  | .asked _ | .closed _ => True

/-- Whether a document is open after a word. -/
def leavesOpen (uri : String) (isOpen : Bool) : DocumentWord → Bool
  | .opened other => isOpen || other = uri
  | .asked _ => isOpen
  | .closed other => isOpen && other ≠ uri

end DocumentWord

/-- Whether a document is open after some words. -/
def isOpenAfter (words : List DocumentWord) (uri : String) : Bool :=
  words.foldl (DocumentWord.leavesOpen uri) false

/-- Words that need a document to be open come only where it is. -/
def Orderly (words : List DocumentWord) : Prop :=
  ∀ before word after, words = before ++ word :: after → word.NeedsOpen →
    isOpenAfter before word.uri = true

/-- Words of questions that need a document to be open come only behind the word with which the same
    question has opened it. -/
def Homely (told : List (Nat × DocumentWord)) : Prop :=
  ∀ before i word after, told = before ++ (i, word) :: after → word.NeedsOpen →
    (i, .opened word.uri) ∈ before

/-- Both come to the same at each of the words. -/
def Agree (told : List (Nat × DocumentWord)) : Prop :=
  ∀ before i word after, told = before ++ (i, word) :: after → word.NeedsOpen →
    (isOpenAfter (before.map (·.2)) word.uri = true ↔ (i, .opened word.uri) ∈ before)

section Words

variable {words : List DocumentWord} {uri : String} {word : DocumentWord}
  {told more : List (Nat × DocumentWord)} {i : Nat}

theorem isOpenAfter_concat (words : List DocumentWord) (word : DocumentWord) (uri : String) :
    isOpenAfter (words ++ [word]) uri = word.leavesOpen uri (isOpenAfter words uri) := by
  simp [isOpenAfter]

/-- Words about other documents do not matter. -/
theorem isOpenAfter_of_ne (h : word.uri ≠ uri) :
    isOpenAfter (words ++ [word]) uri = isOpenAfter words uri := by
  rw [isOpenAfter_concat]
  cases word with
  | opened other => simp [DocumentWord.leavesOpen, show other ≠ uri from h]
  | asked other => rfl
  | closed other => simp [DocumentWord.leavesOpen, show other ≠ uri from h]

/-- A document that nobody has opened is not open. -/
theorem isOpenAfter_eq_false (h : .opened uri ∉ words) : isOpenAfter words uri = false := by
  induction words using List.reverseRecOn with
  | nil => rfl
  | append_singleton words word ih =>
    simp only [List.mem_append, List.mem_singleton, not_or] at h
    rw [isOpenAfter_concat, ih h.1]
    cases word with
    | opened other =>
      have hne : other ≠ uri := fun heq => h.2 (heq ▸ rfl)
      simp [DocumentWord.leavesOpen, hne]
    | asked other => rfl
    | closed other => rfl

theorem Agree.nil : Agree [] := by
  rintro before i word after heq -
  simp at heq

theorem Agree.concat (h : Agree told)
    (hlast : word.NeedsOpen →
      (isOpenAfter (told.map (·.2)) word.uri = true ↔ (i, .opened word.uri) ∈ told)) :
    Agree (told ++ [(i, word)]) := by
  intro before j other after heq hneeds
  rcases List.eq_nil_or_concat after with rfl | ⟨rest, last, rfl⟩
  · obtain ⟨rfl, hsame⟩ := List.append_inj' heq rfl
    cases hsame
    exact hlast hneeds
  · have heq' : told ++ [(i, word)] = (before ++ (j, other) :: rest) ++ [last] := by
      rw [heq]
      simp
    obtain ⟨htold, -⟩ := List.append_inj' heq' rfl
    exact h before j other rest htold hneeds

theorem Agree.take (h : Agree (told ++ more)) : Agree told := by
  intro before i word after heq hneeds
  refine h before i word (after ++ more) ?_ hneeds
  rw [heq]
  simp

/-- So they come to the same for all words together. -/
theorem Agree.orderly_iff (h : Agree told) : Orderly (told.map (·.2)) ↔ Homely told := by
  constructor
  · intro horderly before i word after heq hneeds
    refine (h before i word after heq hneeds).mp ?_
    refine horderly (before.map (·.2)) word (after.map (·.2)) ?_ hneeds
    rw [heq]
    simp
  · intro hhomely before word after heq hneeds
    obtain ⟨toldBefore, rest, rfl, rfl, hrest⟩ := List.map_eq_append_iff.mp heq
    obtain ⟨⟨i, found⟩, toldAfter, rfl, rfl, rfl⟩ := List.map_eq_cons_iff.mp hrest
    exact (h toldBefore i found toldAfter rfl hneeds).mpr
      (hhomely toldBefore i found toldAfter rfl hneeds)

end Words

/-! ### Where a question is at home -/

/-- What has been said on each link, with the question that said it. -/
abbrev Told := LinkId → List (Nat × DocumentWord)

/-- Nobody has opened a document on a link that is newer than another one. -/
def Told.NotSince (told : Told) (home : LinkId) (uri : String) : Prop :=
  ∀ k, home < k → .opened uri ∉ (told k).map (·.2)

/-- Where a question has opened its document, or begun to open it: nobody has opened it on a newer
    link, and it is still open there. What waits for room does so there or on a newer one. -/
def Dwells (told : Told) (count : Nat) (i : Nat) : DocumentStage → Prop
  | .coming | .gone | .opening _ none => True
  | .opening uri (some send) => send.link < count ∧ told.NotSince send.link uri
  | .inside uri waiting? | .closing uri waiting? =>
    ∃ home, home < count ∧ told.NotSince home uri ∧ (i, .opened uri) ∈ told home ∧
      isOpenAfter ((told home).map (·.2)) uri = true ∧
      ∀ send, waiting? = some send → home ≤ send.link

/-- One more word. -/
def Told.after (told : Told) (i : Nat) (word? : Option (LinkId × DocumentWord)) : Told :=
  fun k => told k ++ (wordsOn word? k).map (i, ·)

section Homes

variable {told : Told} {i j : Nat} {count count' : Nat} {stage after : DocumentStage} {uri : String}
  {word : DocumentWord} {word? : Option (LinkId × DocumentWord)} {s : Session} {k home : LinkId}

theorem Told.after_none (told : Told) (i : Nat) : told.after i none = told := by
  funext k
  simp [Told.after, wordsOn]

theorem Told.after_self (told : Told) (i : Nat) (k : LinkId) (word : DocumentWord) :
    told.after i (some (k, word)) k = told k ++ [(i, word)] := by
  simp [Told.after, wordsOn]

theorem Told.after_of_ne {j : LinkId} (h : j ≠ k) :
    told.after i (some (k, word)) j = told j := by
  simp [Told.after, wordsOn, h]

theorem Dwells.mono (h : Dwells told count i stage) (hle : count ≤ count') :
    Dwells told count' i stage := by
  cases stage with
  | coming | gone => trivial
  | opening uri waiting? =>
    cases waiting? with
    | none => trivial
    | some send => exact ⟨Nat.lt_of_lt_of_le h.1 hle, h.2⟩
  | inside uri waiting? | closing uri waiting? =>
    obtain ⟨home, hlt, hrest⟩ := h
    exact ⟨home, Nat.lt_of_lt_of_le hlt hle, hrest⟩

theorem Told.NotSince.after_of_ne (h : told.NotSince home uri) (i : Nat)
    (hne : .opened uri ≠ word) :
    (told.after i (some (k, word))).NotSince home uri := by
  intro j hj hmem
  by_cases hjk : j = k
  · subst hjk
    rw [told.after_self, List.map_append, List.mem_append] at hmem
    rcases hmem with hmem | hmem
    · exact h j hj hmem
    · exact hne (List.mem_singleton.mp hmem)
  · rw [Told.after_of_ne hjk] at hmem
    exact h j hj hmem

/-- A question that opens a document at home. -/
theorem mem_after (h : (i, word) ∈ told home) (j : Nat) (word? : Option (LinkId × DocumentWord)) :
    (i, word) ∈ told.after j word? home := List.mem_append_left _ h

/-- Words about other documents do not matter. -/
theorem Dwells.others (h : Dwells told count i stage) (j : Nat)
    (hne : stage.uri? ≠ some word.uri ∨ stage = .opening word.uri none) :
    Dwells (told.after j (some (k, word))) count i stage := by
  have hopened {uri : String} (huri : uri ≠ word.uri) : DocumentWord.opened uri ≠ word := by
    rintro rfl
    exact huri rfl
  have hstays {uri : String} {home : LinkId} (huri : uri ≠ word.uri) :
      isOpenAfter ((told.after j (some (k, word)) home).map (·.2)) uri =
        isOpenAfter ((told home).map (·.2)) uri := by
    by_cases hk : home = k
    · subst hk
      rw [told.after_self, List.map_append]
      exact isOpenAfter_of_ne (Ne.symm huri)
    · rw [Told.after_of_ne hk]
  cases stage with
  | coming | gone => trivial
  | opening uri waiting? =>
    cases waiting? with
    | none => trivial
    | some send =>
      have huri : uri ≠ word.uri := by
        rcases hne with hne | heq
        · exact fun heq => hne (congrArg some heq)
        · cases heq
      exact ⟨h.1, h.2.after_of_ne j (hopened huri)⟩
  | inside uri waiting? | closing uri waiting? =>
    have huri : uri ≠ word.uri := by
      rcases hne with hne | heq
      · exact fun heq => hne (congrArg some heq)
      · cases heq
    obtain ⟨home, hlt, hsince, hmem, hopen, hlink⟩ := h
    refine ⟨home, hlt, hsince.after_of_ne j (hopened huri), mem_after hmem j _, ?_, hlink⟩
    rw [hstays huri]
    exact hopen

/-- What a message goes through is not older than the home of its question. -/
theorem Session.Newest.le_of_offers (h : s.Newest) {waiting? : Option SendPoint}
    (hhome : home < s.links.length) (hlink : ∀ send, waiting? = some send → home ≤ send.link)
    (hoffers : s.Offers waiting? k) : home ≤ k := by
  rcases hoffers with hwriter | ⟨send, hsend, rfl⟩
  · exact Nat.le_of_lt_succ (Nat.lt_of_lt_of_eq hhome (h k hwriter).symm)
  · exact hlink send hsend

/-- A message that needs the document to be open finds it so exactly if its question has opened it
    on the same link. -/
theorem agree_of_home (hsince : told.NotSince home uri) (hmem : (i, .opened uri) ∈ told home)
    (hopen : isOpenAfter ((told home).map (·.2)) uri = true) (hle : home ≤ k) :
    isOpenAfter ((told k).map (·.2)) uri = true ↔ (i, .opened uri) ∈ told k := by
  rcases Nat.eq_or_lt_of_le hle with rfl | hlt
  · exact iff_of_true hopen hmem
  · have hnot := hsince k hlt
    refine iff_of_false ?_ fun hmem => hnot (List.mem_map_of_mem hmem)
    rw [isOpenAfter_eq_false hnot]
    exact Bool.false_ne_true

/-- One who begins to open a document does so on the newest link; who waits for room there keeps the
    link, and nobody has opened the document on a newer one since. -/
theorem Dwells.opening {waiting? : Option SendPoint}
    (h : Dwells told s.links.length i (.opening uri waiting?)) (hnewest : s.Newest)
    (hunborn : ∀ k, s.links.length ≤ k → told k = []) (hoffers : s.Offers waiting? k) :
    k < s.links.length ∧ told.NotSince k uri := by
  rcases hoffers with hwriter | ⟨send, rfl, rfl⟩
  · have hlength := hnewest k hwriter
    refine ⟨Nat.lt_of_succ_le (Nat.le_of_eq hlength), fun j hj hmem => ?_⟩
    rw [hunborn j (hlength ▸ hj)] at hmem
    cases hmem
  · exact h

/-- A question that has its document open and asks, or waits for room. -/
theorem Dwells.inside {waiting? : Option SendPoint}
    (h : Dwells told s.links.length i stage)
    (hstage : stage = .inside uri waiting? ∨ stage = .closing uri waiting?) :
    ∃ home, home < s.links.length ∧ told.NotSince home uri ∧ (i, .opened uri) ∈ told home ∧
      isOpenAfter ((told home).map (·.2)) uri = true ∧
      ∀ send, waiting? = some send → home ≤ send.link := by
  rcases hstage with rfl | rfl
  · exact h
  · exact h

/-- To ask does not close anything. -/
theorem isOpenAfter_asked (told : Told) (i : Nat) (k home : LinkId) (uri other : String) :
    isOpenAfter ((told.after i (some (k, .asked other)) home).map (·.2)) uri =
      isOpenAfter ((told home).map (·.2)) uri := by
  by_cases hk : home = k
  · subst hk
    rw [told.after_self, List.map_append]
    exact isOpenAfter_concat _ _ _
  · rw [Told.after_of_ne hk]

/-- A question stays at home, whatever it does. -/
theorem DocumentMoves.dwells (h : DocumentMoves s stage word? after)
    (hhome : Dwells told s.links.length i stage) (hnewest : s.Newest)
    (hunborn : ∀ k, s.links.length ≤ k → told k = []) :
    Dwells (told.after i word?) s.links.length i after := by
  cases h with
  | comes | passes | stays | joins | fails | closes | leaves => trivial
  | waits uri waiting? send offers =>
    rw [told.after_none]
    exact hhome.opening hnewest hunborn offers
  | opens uri waiting? k offers =>
    obtain ⟨hlt, hsince⟩ := hhome.opening hnewest hunborn offers
    refine ⟨k, hlt, fun j hj => ?_, ?_, ?_, by rintro send ⟨⟩⟩
    · rw [Told.after_of_ne (Nat.ne_of_gt hj)]
      exact hsince j hj
    · rw [told.after_self]
      exact List.mem_concat_self
    · rw [told.after_self, List.map_append]
      refine (isOpenAfter_concat _ _ _).trans ?_
      simp [DocumentWord.leavesOpen]
  | asks uri waiting? k offers =>
    obtain ⟨home, hlt, hsince, hmem, hopen, -⟩ := hhome
    refine ⟨home, hlt, hsince.after_of_ne i (by rintro ⟨⟩), mem_after hmem i _, ?_, by
      rintro send ⟨⟩⟩
    rw [isOpenAfter_asked]
    exact hopen
  | asksLater uri waiting? send offers =>
    obtain ⟨home, hlt, hsince, hmem, hopen, hlink⟩ := hhome
    rw [told.after_none]
    refine ⟨home, hlt, hsince, hmem, hopen, ?_⟩
    rintro _ ⟨⟩
    exact hnewest.le_of_offers hlt hlink offers
  | closesLater _ uri waiting? send isOpen offers =>
    obtain ⟨home, hlt, hsince, hmem, hopen, hlink⟩ := hhome.inside isOpen
    rw [told.after_none]
    refine ⟨home, hlt, hsince, hmem, hopen, ?_⟩
    rintro _ ⟨⟩
    exact hnewest.le_of_offers hlt hlink offers

/-- Whatever it says, the document is open where the question is at home, and only there. -/
theorem DocumentMoves.agree (h : DocumentMoves s stage word? after)
    (hhome : Dwells told s.links.length i stage) (hnewest : s.Newest)
    (hagree : ∀ k, Agree (told k)) (k : LinkId) : Agree (told.after i word? k) := by
  have hsays {k' : LinkId} {word : DocumentWord}
      (hneeds : word.NeedsOpen →
        (isOpenAfter ((told k').map (·.2)) word.uri = true ↔ (i, .opened word.uri) ∈ told k')) :
      Agree (told.after i (some (k', word)) k) := by
    by_cases hk : k = k'
    · subst hk
      rw [told.after_self]
      exact (hagree k).concat hneeds
    · rw [Told.after_of_ne hk]
      exact hagree k
  have hinside {uri : String} {waiting? : Option SendPoint} {k' : LinkId}
      (isOpen : stage = .inside uri waiting? ∨ stage = .closing uri waiting?)
      (offers : s.Offers waiting? k') :
      isOpenAfter ((told k').map (·.2)) uri = true ↔ (i, .opened uri) ∈ told k' := by
    obtain ⟨home, hlt, hsince, hmem, hopen, hlink⟩ := hhome.inside isOpen
    exact agree_of_home hsince hmem hopen (hnewest.le_of_offers hlt hlink offers)
  cases h with
  | comes | passes | stays | joins | waits | fails | asksLater | closesLater | leaves =>
    rw [told.after_none]
    exact hagree k
  | opens uri waiting? k' offers => exact hsays False.elim
  | asks uri waiting? k' offers => exact hsays fun _ => hinside (.inl rfl) offers
  | closes _ uri waiting? k' isOpen offers => exact hsays fun _ => hinside isOpen offers

end Homes

/-! ### Steps of questions, and links -/

open Session

namespace InquiryPoint

variable {now : Instant} {files : Option Tree} {adapter : Adapter} {point : InquiryPoint}

/-- A question does not bring a writer back, nor a link. -/
theorem keeps_moves {stepped : Inquired} (h : InquiryMoves now files adapter point stepped)
    (hblocked : stepped.2 ≠ .blocked) : Keeps adapter.session stepped.1.session := by
  have hlisten {s' : Session} {listeners : List (String × Broadcast Json)}
      (hkeeps : Keeps (adapter.withListeners listeners).session s') : Keeps adapter.session s' := by
    exact ⟨hkeeps.turns, hkeeps.connection, hkeeps.writer, hkeeps.length, hkeeps.readers⟩
  have hnotice (notice : NoticePoint) (s : Session) : Keeps s (notice.step s).1 :=
    (notice.quiet_step s).toKeeps
  have hcall (call : QueryPoint) (s : Session) : Keeps s (call.step now s).1 :=
    (call.drift_step now s).toKeeps
  have hleaves (bracket : Bracket) (adapter' : Adapter) (result : Except SessionError Answer)
      (hkeeps : Keeps adapter.session adapter'.session) :
      Keeps adapter.session (leave now bracket adapter' result).1.session := by
    rw [(leave_eq now bracket adapter' result).1]
    exact hkeeps
  cases h with
  | blocks => exact absurd rfl hblocked
  | unaskable | remembers | shuns | reads | asks | unreadable | scans => exact .refl _
  | joins inquiry query path text uri uri_eq =>
    show Keeps adapter.session (adapter.lockDocument uri).2.session
    rw [adapter.session_lockDocument]
    exact .refl _
  | opening _ bracket listener notice notice' listeners s' before step =>
    have hstep := hnotice notice (adapter.withListeners listeners).session
    rw [step] at hstep
    exact hlisten hstep
  | opened _ bracket listener notice listeners s' resume before step =>
    have hstep := hnotice notice (adapter.withListeners listeners).session
    rw [step] at hstep
    exact hlisten hstep
  | unopened _ bracket listener notice listeners listeners' s' reason before step =>
    have hstep := hnotice notice (adapter.withListeners listeners).session
    rw [step] at hstep
    have hkeeps := hlisten hstep
    exact hleaves bracket _ _
      ⟨hkeeps.turns, hkeeps.connection, hkeeps.writer, hkeeps.length, hkeeps.readers⟩
  | asking _ bracket call call' listeners s' before step =>
    have hstep := hcall call (adapter.withListeners listeners).session
    rw [step] at hstep
    exact hlisten hstep
  | closing _ bracket call listeners middle s' result notice before answered step =>
    have hanswered := hcall call (adapter.withListeners listeners).session
    rw [answered] at hanswered
    have hstep := hnotice (.starting (.didClose bracket.uri)) middle
    rw [step] at hstep
    exact (hlisten hanswered).trans hstep
  | closed _ bracket call listeners middle s' result sent before answered step =>
    have hanswered := hcall call (adapter.withListeners listeners).session
    rw [answered] at hanswered
    have hstep := hnotice (.starting (.didClose bracket.uri)) middle
    rw [step] at hstep
    exact hleaves bracket _ _ ((hlisten hanswered).trans hstep)
  | stillCloses bracket result notice notice' s' step =>
    have hstep := hnotice notice adapter.session
    rw [step] at hstep
    exact hstep
  | leaves bracket result notice s' sent step =>
    have hstep := hnotice notice adapter.session
    rw [step] at hstep
    exact hleaves bracket _ _ hstep
  | stillAsks inquiry query call call' s' step =>
    have hstep := hcall call adapter.session
    rw [step] at hstep
    exact hstep
  | concludes inquiry query call s' result step =>
    have hstep := hcall call adapter.session
    rw [step] at hstep
    cases result with
    | ok answer => exact hstep
    | error reason => exact hstep

/-- Nor does one that is given up. -/
theorem renews_cancel (point : InquiryPoint) (adapter : Adapter) :
    Renews adapter.session (point.cancel adapter).session := by
  have hstop {adapter' : Adapter} (listener : Option Nat)
      (hrenews : Renews adapter.session adapter'.session) :
      Renews adapter.session (stopListening adapter' listener).session := by
    obtain ⟨listeners, hlisteners⟩ := adapter'.exists_stopListening listener
    rw [hlisteners]
    exact hrenews.congr rfl rfl
  cases point with
  | starting | reading | queued | scanning => exact .refl _
  | opening bracket listener notice =>
    exact hstop listener ((SessionTask.notify notice).renews_cancel adapter.session)
  | settling bracket listener resume => exact hstop listener (.refl _)
  | asking inquiry query call => exact (SessionTask.ask call).renews_cancel adapter.session
  | askingInside bracket call => exact (SessionTask.ask call).renews_cancel adapter.session
  | closing bracket result notice =>
    exact (SessionTask.notify notice).renews_cancel adapter.session

end InquiryPoint

namespace AdapterTask

theorem renews_step (now : Instant) (files : Option Tree) (task : AdapterTask) (adapter : Adapter)
    (hblocked : (task.step now files adapter).2 ≠ .blocked) :
    Renews adapter.session (task.step now files adapter).1.session := by
  cases task with
  | inquiry point =>
    have hmoves := point.step_moves now files adapter
    exact (InquiryPoint.keeps_moves hmoves (Stepped.ne_blocked_of_map hblocked)).renews
  | onSession task =>
    have hgoesOn : (adapter.withSession (task.step now adapter.session)).2 ≠ .blocked :=
      Stepped.ne_blocked_of_map hblocked
    exact task.renews_step now adapter.session hgoesOn

theorem renews_cancel (task : AdapterTask) (adapter : Adapter) :
    Renews adapter.session (task.cancel adapter).session := by
  cases task with
  | inquiry point => exact point.renews_cancel adapter
  | onSession task => exact task.renews_cancel adapter.session

end AdapterTask

namespace AdapterCourse

variable {course : AdapterCourse}

/-- Whatever happens to an adapter. -/
theorem renews_next (course : AdapterCourse) (event : AdapterCourseEvent) :
    Renews course.shared.session (adapterRules.next course event).shared.session := by
  have hmoves := adapterRules.next_moves course event
  generalize adapterRules.next course event = course' at hmoves
  have hstep {files : Option Tree} {task : AdapterTask} {shared : Adapter}
      {progress : Progress AdapterTask AdapterReply}
      (step : task.step course.now files course.shared = (shared, progress))
      (hblocked : progress ≠ .blocked) : Renews course.shared.session shared.session := by
    have hrenews := task.renews_step course.now files course.shared (by rwa [step])
    rwa [step] at hrenews
  cases hmoves with
  | blocks | misses | begins | waits => exact .refl _
  | moves i files task task' shared stands step => exact hstep step (by rintro ⟨⟩)
  | finishes i files task result shared stands step => exact hstep step (by rintro ⟨⟩)
  | givesUp i task stands => exact task.renews_cancel course.shared
  | occurs event =>
    cases event with
    | invalidates => exact .refl _
    | happens event => exact (drift_undergo course.now event course.shared.session).toKeeps.renews

/-! ### Every word and its question -/

open AdapterMoment

/-- What was said about documents on a link, and which question said it. -/
def toldIn (past : List AdapterMoment) : Told := fun k =>
  past.flatMap fun moment =>
    ((adapterRules.step? moment).map (·.1)).elim [] fun i => (words moment k).map (i, ·)

/-- What was taken to be written about documents on a link. -/
def writtenWords (past : List AdapterMoment) (k : LinkId) : List DocumentWord :=
  (writtenIn past k).filterMap Outgoing.word?

variable {past : List AdapterMoment} {moment : AdapterMoment} {event : AdapterCourseEvent} {i : Nat}
  {task : AdapterTask} {progress : Progress AdapterTask AdapterReply}
  {word? : Option (LinkId × DocumentWord)}

theorem toldIn_of_step? (h : adapterRules.step? moment = some (i, task, progress))
    (hwords : ∀ k, words moment k = wordsOn word? k) :
    toldIn (past ++ [moment]) = (toldIn past).after i word? := by
  ext k : 1
  simp [toldIn, Told.after, h, hwords]

theorem toldIn_of_silent (hwords : ∀ k, words moment k = wordsOn none k) :
    toldIn (past ++ [moment]) = toldIn past := by
  ext k : 1
  cases hstep : adapterRules.step? moment with
  | none => simp [toldIn, hstep]
  | some step => simp [toldIn, hstep, hwords, wordsOn]

theorem spokenIn_concat (past : List AdapterMoment) (moment : AdapterMoment) (k : LinkId) :
    (spokenIn (past ++ [moment]) k).filterMap Outgoing.word? =
      (spokenIn past k).filterMap Outgoing.word? ++ words moment k := by
  simp [spokenIn, words]

/-- Messages go through the newest link, and whatever was said was said by a question that is at
    home where it has opened its document. -/
structure Homed (past : List AdapterMoment) (course : AdapterCourse) : Prop where
  newest : course.shared.session.Newest
  words : ∀ k, (toldIn past k).map (·.2) = (spokenIn past k).filterMap Outgoing.word?
  home : ∀ i, Dwells (toldIn past) course.shared.session.links.length i (course.stageAt i)
  agree : ∀ k, Agree (toldIn past k)

/-- While a question goes on with a document, no other one is at home there. -/
theorem Dwells.others_of_moves (hlocked : course.IsLocked) {files : Option Tree}
    (hstep : adapterRules.step? (course, .step i files) = some (i, task, progress))
    (hgoesOn : progress ≠ .blocked)
    {after : DocumentStage} {told : Told} {count j : Nat}
    (hmoves : DocumentMoves course.shared.session task.stage word? after)
    (hne : j ≠ i) (h : Dwells told count j (course.stageAt j)) :
    Dwells (told.after i word?) count j (course.stageAt j) := by
  cases word? with
  | none =>
    rw [told.after_none]
    exact h
  | some said =>
    obtain ⟨k, word⟩ := said
    refine h.others i ?_
    by_contra hboth
    obtain ⟨huri, hstage⟩ := not_or.mp hboth
    exact hgoesOn (blocked_of_works hlocked (not_not.mp huri) hstage hstep (uri?_of_moves hmoves)
      hne.symm)

theorem Homed.next (h : Homed past course) (hsound : course.Sound)
    (hfollows : course.shared.session.Follows (spokenIn past) (writtenIn past))
    (event : AdapterCourseEvent) :
    Homed (past ++ [(course, event)]) (adapterRules.next course event) := by
  obtain ⟨word?, hwords, -, htells⟩ := hsound.fits.next_tells hfollows event
  have hrenews := renews_next course event
  have hunborn (k : LinkId) (hk : course.shared.session.links.length ≤ k) : toldIn past k = [] := by
    rw [← List.map_eq_nil_iff, h.words, hfollows.unborn k hk]
    rfl
  generalize adapterRules.next course event = course' at hrenews htells ⊢
  have hsaid (k : LinkId) : (spokenIn (past ++ [(course, event)]) k).filterMap Outgoing.word? =
      (toldIn past k).map (·.2) ++ wordsOn word? k := by
    rw [spokenIn_concat, h.words, hwords]
  have hsilent (hsame : word? = none)
      (home : ∀ i, Dwells (toldIn past) course.shared.session.links.length i (stageAt course' i)) :
      Homed (past ++ [(course, event)]) course' := by
    subst hsame
    have htold : toldIn (past ++ [(course, event)]) = toldIn past := toldIn_of_silent hwords
    refine ⟨h.newest.renews hrenews, fun k => ?_, fun i => ?_, fun k => ?_⟩
    · rw [hsaid, htold]
      simp [wordsOn]
    · rw [htold]
      exact (home i).mono hrenews.length_le
    · rw [htold]
      exact h.agree k
  cases htells with
  | speaks i files task progress _ step goesOn moves stages =>
    have htold : toldIn (past ++ [(course, .step i files)]) = (toldIn past).after i word? :=
      toldIn_of_step? step hwords
    obtain ⟨input, -, stands, -⟩ := adapterRules.step?_eq_some step
    have hown := h.home i
    rw [stageAt_eq stands] at hown
    refine ⟨h.newest.renews hrenews, fun k => ?_, fun j => ?_, fun k => ?_⟩
    · rw [hsaid, htold]
      simp [Told.after]
    · rw [htold, stages]
      refine Dwells.mono ?_ hrenews.length_le
      by_cases hji : j = i
      · subst hji
        rw [Function.update_self]
        exact moves.dwells hown h.newest hunborn
      · rw [Function.update_of_ne hji]
        exact Dwells.others_of_moves hsound.locked step goesOn moves hji (h.home j)
    · rw [htold]
      exact moves.agree hown h.newest h.agree k
  | keepsSilent _ waits stages =>
    refine hsilent rfl fun i => ?_
    rw [stages]
    exact h.home i
  | givesUp i stages =>
    refine hsilent rfl fun j => ?_
    rw [stages]
    by_cases hji : j = i
    · subst hji
      rw [Function.update_self]
      trivial
    · rw [Function.update_of_ne hji]
      exact h.home j

section After

variable (ecosystem : Ecosystem) (root : Path) (server : ServerConfig) (session : SessionSettings)
  (settings : AdapterSettings)

theorem homed_after (events : List AdapterCourseEvent) :
    Homed (adapterRules.history (start ecosystem root server session settings) events)
      (adapterRules.after (start ecosystem root server session settings) events) := by
  induction events using List.reverseRecOn with
  | nil =>
    refine ⟨?_, fun _ => rfl, fun _ => trivial, fun _ => .nil⟩
    rintro k ⟨⟩
  | append_singleton events event ih =>
    rw [adapterRules.history_concat, adapterRules.after_concat]
    exact ih.next (sound_after ecosystem root server session settings events)
      (follows_after ecosystem root server session settings events) event

/-- What a server gets to read about documents is in order exactly if each question has opened its
    document where it asks about it and closes it, whatever happens to the adapter and its session. -/
theorem orderly_iff_homely (events : List AdapterCourseEvent) (k : LinkId) :
    let past := adapterRules.history (start ecosystem root server session settings) events
    let told := (toldIn past k).take (writtenWords past k).length
    told.map (·.2) = writtenWords past k ∧ (Orderly (writtenWords past k) ↔ Homely told) := by
  intro past told
  have hhomed : Homed past _ := homed_after ecosystem root server session settings events
  obtain ⟨rest, hrest⟩ :=
    ((follows_after ecosystem root server session settings events).mailbox k).within
  have hsplit : (toldIn past k).map (·.2) =
      writtenWords past k ++ rest.filterMap Outgoing.word? := by
    rw [hhomed.words, ← hrest]
    exact List.filterMap_append
  have hwritten : told.map (·.2) = writtenWords past k := by
    rw [List.map_take, hsplit, List.take_left]
  refine ⟨hwritten, ?_⟩
  have hagree : Agree (told ++ (toldIn past k).drop (writtenWords past k).length) := by
    rw [List.take_append_drop]
    exact hhomed.agree k
  rw [← hwritten]
  exact hagree.take.orderly_iff

end After

/-! ### A server that comes in between -/

/-- A question has opened its document when the server ends, and another server is launched and
    greeted before the question goes on. -/
def restartInside : List AdapterCourseEvent :=
  greetedServer ++ [.begin (.ask (.document "/ws/a")), .step 1 none, .step 1 oneDocument,
    .step 1 none, .occur (.happens (.hear 0 .ended)), .wait (.ofSecs 5), .begin .ensure,
    .step 2 none, .step 2 none, .step 2 none, .occur (.happens (.launched (.ok .absent))),
    .step 2 none, .step 2 none, .occur (.happens (.write 1))]

/-- The new server answers the greeting, and then the question, which goes on. -/
def askedElsewhere : List AdapterCourseEvent :=
  let greeting :=
    "\x7b\"id\":2,\"result\":\x7b\"capabilities\":\x7b\"documentSymbolProvider\":true\x7d\x7d\x7d"
  let symbols := "\x7b\"id\":3,\"result\":[]\x7d"
  let write : List AdapterCourseEvent :=
    [.occur (.happens (.write 1)), .occur (.happens (.written 1 1000))]
  [.occur (.happens (.hear 1 (.bytes (frameBytes greeting.toUTF8)))), .step 2 none] ++ write ++
    [.wait (.ofSecs 5), .step 1 none] ++ write ++
    [.occur (.happens (.hear 1 (.bytes (frameBytes symbols.toUTF8)))), .step 1 none] ++ write

/-- A server may be asked about a document that it was never told to open, and be told to close
    it. -/
theorem not_forall_orderly :
    ¬∀ (ecosystem : Ecosystem) (root : Path) (server : ServerConfig) (session : SessionSettings)
        (settings : AdapterSettings) (events : List AdapterCourseEvent),
      (∀ event ∈ events, ¬event.GivesUp) → ∀ k, Orderly (writtenWords (adapterRules.history
        (start ecosystem root server session settings) events) k) := by
  intro h
  let begun := start default "/ws" default {} { settleDelay := .ofSecs 10 }
  let restarted : AdapterCourse := adapterRules.after begun restartInside
  let taken : AdapterCourseEvent :=
    .occur (.happens (.written 1 (SessionCourse.heldBytes restarted.shared.session 1)))
  let greeted : AdapterCourse := { restarted with
    shared := { restarted.shared with
      session := SessionCourse.allTaken restarted.shared.session 1 } }
  -- How long the greeting is does not matter: the server takes all of it.
  have htaken : adapterRules.next restarted taken = greeted :=
    congrArg (fun session => { restarted with shared := { restarted.shared with session } })
      (SessionCourse.undergo_written_held restarted.now restarted.shared.session 1)
  have hbefore : writtenWords (adapterRules.history begun restartInside) 1 = [] := by
    decide +kernel
  have hlater : writtenWords (adapterRules.history greeted askedElsewhere) 1 =
      [.asked "file:///ws/a", .closed "file:///ws/a"] := by decide +kernel
  have hwords : writtenWords (adapterRules.history begun
      (restartInside ++ taken :: askedElsewhere)) 1 =
        [.asked "file:///ws/a", .closed "file:///ws/a"] := by
    have hnothing : AdapterMoment.taken (restarted, taken) 1 = [] := rfl
    rw [adapterRules.history_append, writtenWords, writtenIn, List.flatMap_append,
      List.filterMap_append]
    show writtenWords (adapterRules.history begun restartInside) 1 ++
      List.filterMap Outgoing.word? (AdapterMoment.taken (restarted, taken) 1 ++
        writtenIn (adapterRules.history (adapterRules.next restarted taken) askedElsewhere) 1) = _
    rw [hnothing, htaken, hbefore, List.nil_append, List.nil_append]
    exact hlater
  have hstay : ∀ event ∈ restartInside ++ taken :: askedElsewhere, ¬event.GivesUp := by
    simp [restartInside, askedElsewhere, greetedServer, taken, CrowdEvent.GivesUp]
  have horderly : Orderly (writtenWords (adapterRules.history begun
      (restartInside ++ taken :: askedElsewhere)) 1) :=
    h default "/ws" default {} { settleDelay := .ofSecs 10 } _ hstay 1
  rw [hwords] at horderly
  exact absurd (horderly [] _ _ rfl trivial) (by decide)

end AdapterCourse
end SymbolSearch
