import SymbolSearch.Proofs.Adapter.Replies

/-!
# Where answers come from

An adapter gives answers of its server, answers that it remembers, and answers of a text scan. This
file shows that it tells them apart.

* `Query.memoKey_inj` — no two questions share what their answers are kept under.
* `InquiryPoint.Answering` and `InquiryPoint.answering_step` — what a step of a question does to what
  is remembered, and what it answers.
* `AdapterCourse.StoredAt` — an earlier call has heard an answer and stored it.
* `AdapterCourse.Honest` — what is promised; `AdapterCourse.honest_after` shows it.
-/

namespace SymbolSearch

/-! ### What answers are kept under -/

/-- What stands before the first colon is not mixed up with what stands behind it. -/
theorem eq_of_append_colon {xs ys rest rest' : List Char} (hxs : ':' ∉ xs) (hys : ':' ∉ ys)
    (h : xs ++ ':' :: rest = ys ++ ':' :: rest') : xs = ys ∧ rest = rest' := by
  have hlength : xs.length = ys.length := by
    have hindex := congrArg (List.idxOf ':') h
    simpa [List.idxOf_append_of_notMem hxs, List.idxOf_append_of_notMem hys] using hindex
  obtain ⟨hsame, hrest⟩ := List.append_inj h hlength
  exact ⟨hsame, (List.cons.inj hrest).2⟩

theorem colon_notMem_toDigits (n : Nat) : ':' ∉ Nat.toDigits 10 n := fun h =>
  absurd (Nat.isDigit_of_mem_toDigits (by decide) (by decide) h) (by decide)

theorem toDigits_inj {n m : Nat} (h : Nat.toDigits 10 n = Nat.toDigits 10 m) : n = m := by
  have hvalue := congrArg (Nat.ofDigitChars 10 · 0) h
  simpa only [Nat.ofDigitChars_ten_toDigits] using hvalue

/-- The text of a place is read in one way only. -/
theorem Position.eq_of_text {position position' : Position} {flag flag' : Bool}
    (h : toString position.line ++ ":" ++ toString position.character ++ ":" ++ toString flag =
      toString position'.line ++ ":" ++ toString position'.character ++ ":" ++ toString flag') :
    position = position' ∧ flag = flag' := by
  have htext (position : Position) (flag : Bool) :
      (toString position.line ++ ":" ++ toString position.character ++ ":" ++
        toString flag).toList = Nat.toDigits 10 position.line.toNat ++ ':' ::
          (Nat.toDigits 10 position.character.toNat ++ ':' :: (toString flag).toList) := by
    have hnumber (n : UInt32) : (toString n).toList = Nat.toDigits 10 n.toNat := by
      show (toString n.toNat).toList = _
      rw [Nat.toString_eq_ofList_toDigits, String.toList_ofList]
    simp [String.toList_append, hnumber]
  have hlists := congrArg String.toList h
  rw [htext, htext] at hlists
  obtain ⟨hline, hlists⟩ :=
    eq_of_append_colon (colon_notMem_toDigits _) (colon_notMem_toDigits _) hlists
  obtain ⟨hcharacter, hflag⟩ :=
    eq_of_append_colon (colon_notMem_toDigits _) (colon_notMem_toDigits _) hlists
  constructor
  · cases position
    cases position'
    rw [Position.mk.injEq]
    exact ⟨UInt32.toNat_inj.mp (toDigits_inj hline), UInt32.toNat_inj.mp (toDigits_inj hcharacter)⟩
  · have htrue : (toString true).toList ≠ (toString false).toList := by decide
    cases flag with
    | true =>
      cases flag' with
      | true => rfl
      | false => exact absurd hflag htrue
    | false =>
      cases flag' with
      | true => exact absurd hflag.symm htrue
      | false => rfl

/-- No document has an empty URI. -/
theorem fileUri?_ne_empty {path : Path} {uri : String} (h : fileUri? path = some uri) : uri ≠ "" := by
  unfold fileUri? at h
  split at h
  · obtain rfl := Option.some.inj h
    intro hempty
    have hlist := congrArg String.toList hempty
    simp [String.toList_append] at hlist
  · cases h

/-- A question that can be put to a server names a document, or none. -/
theorem Inquiry.uri_ne_empty {inquiry : Inquiry} {query : Query} (h : inquiry.query? = .ok query) :
    query.uri? ≠ some "" := by
  cases inquiry with
  | document path | references path =>
    simp only [Inquiry.query?] at h
    split at h
    next uri huri =>
      cases h
      exact fun hempty => fileUri?_ne_empty huri (Option.some.inj hempty)
    next => cases h
  | workspace text =>
    cases h
    rintro ⟨⟩

/-- No two questions share what their answers are kept under. -/
theorem Query.memoKey_inj {inquiry inquiry' : Inquiry} {query query' : Query}
    (h : inquiry.query? = .ok query) (h' : inquiry'.query? = .ok query')
    (hkey : query.memoKey = query'.memoKey) : query = query' := by
  have huri := Inquiry.uri_ne_empty h
  have huri' := Inquiry.uri_ne_empty h'
  cases query with
  | documentSymbols uri =>
    cases query' with
    | documentSymbols uri' =>
      obtain ⟨rfl, -⟩ := MemoKey.symbols.inj hkey
      rfl
    | references uri' position flag => cases hkey
    | workspaceSymbols text =>
      obtain ⟨rfl, -⟩ := MemoKey.symbols.inj hkey
      exact absurd rfl huri
  | references uri position flag =>
    cases query' with
    | documentSymbols | workspaceSymbols => cases hkey
    | references uri' position' flag' =>
      obtain ⟨rfl, htext⟩ := MemoKey.references.inj hkey
      obtain ⟨rfl, rfl⟩ := Position.eq_of_text htext
      rfl
  | workspaceSymbols text =>
    cases query' with
    | documentSymbols uri' =>
      obtain ⟨rfl, -⟩ := MemoKey.symbols.inj hkey
      exact absurd rfl huri'
    | references uri' position flag => cases hkey
    | workspaceSymbols text' =>
      obtain ⟨-, rfl⟩ := MemoKey.symbols.inj hkey
      rfl

namespace Memo

variable {κ ν : Type} [DecidableEq κ] {memo : Memo κ ν} {now : Instant} {key : κ} {value : ν}
  {entry : κ × ν × Instant}

/-- What is found was put in under the key, and its time is not over. -/
theorem mem_of_get (h : (memo.get now key).1 = some value) :
    ∃ time, (key, value, time) ∈ memo.entries ∧ now < time := by
  obtain ⟨⟨key', value', time⟩, hfound, rfl⟩ := Option.map_eq_some_iff.mp h
  have hkey := List.find?_some hfound
  obtain rfl : key' = key := of_decide_eq_true hkey
  obtain ⟨hmem, hlt⟩ := List.mem_filter.mp (List.mem_of_find?_eq_some hfound)
  exact ⟨time, hmem, of_decide_eq_true hlt⟩

omit [DecidableEq κ] in
theorem mem_of_mem_purge (h : entry ∈ (memo.purge now).entries) : entry ∈ memo.entries :=
  List.mem_of_mem_filter h

theorem eq_or_mem_of_mem_insert (h : entry ∈ (memo.insert now key value).entries) :
    entry = (key, value, now + memo.lifetime) ∨ entry ∈ memo.entries := by
  rcases List.mem_cons.mp h with rfl | hmem
  · exact .inl rfl
  · exact .inr (List.mem_of_mem_filter hmem)

end Memo

/-! ### Steps of a question -/

/-- What was asked. -/
def InquiryPoint.inquiry : InquiryPoint → Inquiry
  | .starting inquiry | .reading inquiry _ _ | .asking inquiry _ _ | .scanning inquiry _ => inquiry
  | .queued bracket _ | .opening bracket _ _ | .settling bracket _ _ | .askingInside bracket _
  | .closing bracket _ _ => bracket.inquiry

/-- What a question has in hand is its own: its request, or the answer to it. -/
def InquiryPoint.Vouched (past : List AdapterMoment) (i : Nat) : InquiryPoint → Prop
  | .asking _ _ call | .askingInside _ call => AdapterCourse.Pursued past i call
  | .closing bracket result _ =>
    ∀ answer, result = .ok answer → AdapterCourse.Heard past i bracket.query answer
  | _ => True

/-- An adapter that keeps its settings. -/
structure Adapter.Stays (adapter after : Adapter) : Prop where
  scanner : after.scanner = adapter.scanner
  lifetime : after.memo.lifetime = adapter.memo.lifetime

open AdapterCourse

/-- What a step of a question does to what is remembered, and what it answers. -/
inductive InquiryPoint.Answering (past : List AdapterMoment) (course : AdapterCourse) (i : Nat)
    (files : Option Tree) (inquiry : Inquiry) : Inquired → Prop where
  | goesOn (after : Adapter) (point : InquiryPoint) (stays : course.shared.Stays after)
      (memo : after.memo = course.shared.memo ∨ after.memo = course.shared.memo.purge course.now)
      (inquiry_eq : point.inquiry = inquiry)
      (vouched : point.Vouched (past ++ [(course, .step i files)]) i) :
      Answering past course i files inquiry (after, .moved point)
  | remembers (after : Adapter) (query : Query) (answer : Answer)
      (stays : course.shared.Stays after) (query_eq : inquiry.query? = .ok query)
      (hit : (course.shared.memo.get course.now query.memoKey).1 = some answer)
      (memo : after.memo = course.shared.memo.purge course.now) :
      Answering past course i files inquiry (after, .finished ⟨answer, .semantic⟩)
  | hears (after : Adapter) (query : Query) (answer : Answer) (stays : course.shared.Stays after)
      (query_eq : inquiry.query? = .ok query) (heard : Heard past i query answer)
      (memo : after.memo = course.shared.memo.insert course.now query.memoKey answer) :
      Answering past course i files inquiry (after, .finished ⟨answer, .semantic⟩)
  | scans (after : Adapter) (tree : Tree) (reason : SessionError)
      (stays : course.shared.Stays after) (files_eq : files = some tree)
      (memo : after.memo = course.shared.memo) :
      Answering past course i files inquiry
        (after, .finished ⟨inquiry.scan course.shared.scanner tree, .fallback reason.message⟩)

namespace Adapter

theorem exists_lockDocument (adapter : Adapter) (uri : String) : ∃ guards openDocuments,
    (adapter.lockDocument uri).2 = { adapter with guards, openDocuments } := by
  unfold lockDocument findGuard
  cases adapter.openDocuments.lookup uri with
  | some id => exact ⟨_, _, rfl⟩
  | none => exact ⟨_, _, rfl⟩

theorem exists_unlockDocument (adapter : Adapter) (uri : String) (id : GuardId) (ticket : Ticket) :
    ∃ guards openDocuments,
      adapter.unlockDocument uri id ticket = { adapter with guards, openDocuments } := by
  unfold unlockDocument forgetGuard
  split
  · exact ⟨_, _, rfl⟩
  · exact ⟨_, _, rfl⟩

end Adapter

namespace InquiryPoint

variable {past : List AdapterMoment} {course : AdapterCourse} {i : Nat} {files : Option Tree}
  {point : InquiryPoint} {bracket : Bracket} {after : Adapter}

/-- The end of a question about a document. -/
theorem answering_leave {result : Except SessionError Answer} (hfits : bracket.Fits)
    (hscanner : after.scanner = course.shared.scanner) (hmemo : after.memo = course.shared.memo)
    (hheard : ∀ answer, result = .ok answer → Heard past i bracket.query answer) :
    Answering past course i files bracket.inquiry (leave course.now bracket after result) := by
  obtain ⟨guards, openDocuments, hunlock⟩ :=
    after.exists_unlockDocument bracket.uri bracket.guard bracket.ticket
  unfold leave
  rw [hunlock]
  have hlifetime : after.memo.lifetime = course.shared.memo.lifetime := by rw [hmemo]
  cases result with
  | ok answer =>
    refine .hears _ bracket.query answer ⟨hscanner, hlifetime⟩ hfits.query (hheard answer rfl) ?_
    show after.memo.insert course.now bracket.query.memoKey answer = _
    rw [hmemo]
  | error reason =>
    exact .goesOn _ _ ⟨hscanner, hlifetime⟩ (.inl hmemo) rfl trivial

theorem Opens.inquiry {adapter : Adapter} {listener : Option Nat} {notice : NoticePoint}
    (h : point.Opens adapter bracket listener notice) : point.inquiry = bracket.inquiry := by
  cases h with
  | begins | goesOn => rfl

theorem AsksInside.inquiry {call : QueryPoint} (h : point.AsksInside bracket call) :
    point.inquiry = bracket.inquiry := by
  cases h with
  | begins | goesOn => rfl

/-- A question about an open document has made its request, if any, itself. -/
theorem AsksInside.pursued {call : QueryPoint} (h : point.AsksInside bracket call)
    (hvouched : point.Vouched past i) : Pursued past i call := by
  cases h with
  | begins => exact pursued_starting past i bracket.query
  | goesOn => exact hvouched

/-- The request that a step makes is known to the past. -/
theorem pursued_of_moved (listeners : List (String × Broadcast Json))
    (hkept : TableKept past course) (hi : course.task? i = some (.inquiry point))
    {point' : InquiryPoint} {call call' : QueryPoint}
    (hmoved : point.step course.now files course.shared = (after, .moved point'))
    (hcall : point'.call? = some call') (hpursued : Pursued past i call)
    (hstep : call.step course.now (course.shared.withListeners listeners).session =
      (after.session, .moved call')) :
    Pursued (past ++ [(course, .step i files)]) i call' := by
  have htask : AdapterTask.step course.now files (.inquiry point) course.shared =
      (after, .moved (.inquiry point')) :=
    congrArg (fun stepped => stepped.map AdapterTask.inquiry AdapterReply.sourced) hmoved
  have hstep? : adapterRules.step? (course, .step i files) =
      some (i, .inquiry point, .moved (.inquiry point')) := by
    rw [adapterRules.step?_step hi]
    exact congrArg (fun stepped => some (i, AdapterTask.inquiry point, stepped.2)) htask
  apply hpursued.step hkept hstep? hcall hstep
  rw [adapterRules.next_of_moved hi htask]
  rfl

/-- What a step learns was said by a server. -/
theorem heard_of_finished (listeners : List (String × Broadcast Json))
    (hkept : TableKept past course) (hi : course.task? i = some (.inquiry point))
    {call : QueryPoint} {query : Query} {m : Session} {result : Except SessionError Answer}
    (hreply : point.reply? = call.reply?) (hquery : call.query = query)
    (hpursued : Pursued past i call)
    (hstep : call.step course.now (course.shared.withListeners listeners).session =
      (m, .finished result)) (answer : Answer) (hanswer : result = .ok answer) :
    Heard past i query answer := by
  have hown : course.replyOf i = point.reply? := by rw [replyOf, hi]; rfl
  rw [hanswer] at hstep
  rw [← hquery]
  exact hpursued.heard hkept (hown.trans hreply) (congrArg Prod.snd hstep)

/-- Whatever a step of a question does. -/
theorem answering_step (hkept : TableKept past course) (hfits : point.Fits)
    (hvouched : point.Vouched past i) (hi : course.task? i = some (.inquiry point))
    (files : Option Tree)
    (hblocked : (point.step course.now files course.shared).2 ≠ .blocked) :
    Answering past course i files point.inquiry (point.step course.now files course.shared) := by
  have hmoves := point.step_moves course.now files course.shared
  generalize hstepped : point.step course.now files course.shared = stepped
    at hmoves hblocked ⊢
  cases hmoves with
  | blocks => exact absurd rfl hblocked
  | unaskable | unreadable => exact .goesOn _ _ ⟨rfl, rfl⟩ (.inl rfl) rfl trivial
  | shuns | reads => exact .goesOn _ _ ⟨rfl, rfl⟩ (.inr rfl) rfl trivial
  | remembers inquiry query answer query_eq hit =>
    exact .remembers _ query answer ⟨rfl, rfl⟩ query_eq hit rfl
  | asks inquiry query query_eq no_path =>
    exact .goesOn _ _ ⟨rfl, rfl⟩ (.inr rfl) rfl (pursued_starting _ i query)
  | joins inquiry query path text uri uri_eq =>
    obtain ⟨guards, openDocuments, hlock⟩ := course.shared.exists_lockDocument uri
    refine .goesOn _ _ ?_ ?_ rfl trivial
    · rw [hlock]
      exact ⟨rfl, rfl⟩
    · rw [hlock]
      exact .inl rfl
  | opening _ bracket listener notice notice' listeners s' before step
  | opened _ bracket listener notice listeners s' resume before step =>
    exact .goesOn _ _ ⟨rfl, rfl⟩ (.inl rfl) before.inquiry.symm trivial
  | unopened _ bracket listener notice listeners listeners' s' reason before step =>
    rw [before.inquiry]
    exact answering_leave (before.fits hfits).1 rfl rfl (by rintro answer ⟨⟩)
  | asking _ bracket call call' listeners s' before step =>
    exact .goesOn _ _ ⟨rfl, rfl⟩ (.inl rfl) before.inquiry.symm
      (pursued_of_moved listeners hkept hi hstepped rfl (before.pursued hvouched) step)
  | closing _ bracket call listeners middle s' result notice before answered step =>
    have hquery := (before.fits hfits).2.1.query_eq
    have hheard := heard_of_finished listeners hkept hi before.reply? hquery
      (before.pursued hvouched) answered
    -- The answer waits until the document is closed.
    refine .goesOn _ _ ⟨rfl, rfl⟩ (.inl rfl) before.inquiry.symm fun answer hanswer => ?_
    exact (hheard answer hanswer).append _
  | closed _ bracket call listeners middle s' result sent before answered step =>
    have hquery := (before.fits hfits).2.1.query_eq
    rw [before.inquiry]
    exact answering_leave (before.fits hfits).1 rfl rfl
      (heard_of_finished listeners hkept hi before.reply? hquery (before.pursued hvouched) answered)
  | stillCloses bracket result notice notice' s' step =>
    refine .goesOn _ _ ⟨rfl, rfl⟩ (.inl rfl) rfl fun answer hanswer => ?_
    exact (hvouched answer hanswer).append _
  | leaves bracket result notice s' sent step => exact answering_leave hfits.1 rfl rfl hvouched
  | stillAsks inquiry query call call' s' step =>
    exact .goesOn _ _ ⟨rfl, rfl⟩ (.inl rfl) rfl
      (pursued_of_moved course.shared.session.listeners hkept hi hstepped rfl hvouched step)
  | concludes inquiry query call s' result step =>
    obtain ⟨hquery, -, hasks⟩ := hfits
    cases result with
    | ok answer =>
      have hanswer := heard_of_finished course.shared.session.listeners hkept hi rfl
        hasks.query_eq hvouched step answer rfl
      exact .hears _ query answer ⟨rfl, rfl⟩ hquery hanswer rfl
    | error reason => exact .goesOn _ _ ⟨rfl, rfl⟩ (.inl rfl) rfl trivial
  | scans inquiry reason tree files_eq => exact .scans _ tree reason ⟨rfl, rfl⟩ files_eq rfl

/-- What was vouched for stays so. -/
theorem Vouched.concat (h : point.Vouched past i) (moment : AdapterMoment) :
    point.Vouched (past ++ [moment]) i := by
  cases point with
  | asking | askingInside => exact Pursued.concat h moment
  | closing => exact fun answer hanswer => (h answer hanswer).append [moment]
  | starting | reading | queued | opening | settling | scanning => trivial

/-- A question that is given up stores nothing. -/
theorem stays_cancel (point : InquiryPoint) (adapter : Adapter) :
    (point.cancel adapter).scanner = adapter.scanner ∧
      (point.cancel adapter).memo = adapter.memo := by
  have hstop (adapter : Adapter) (listener : Option Nat) :
      (stopListening adapter listener).scanner = adapter.scanner ∧
        (stopListening adapter listener).memo = adapter.memo := by
    obtain ⟨listeners, hlisteners⟩ := adapter.exists_stopListening listener
    rw [hlisteners]
    exact ⟨rfl, rfl⟩
  cases point with
  | opening bracket listener notice =>
    exact hstop { adapter with session := notice.cancel adapter.session } listener
  | settling bracket listener resume => exact hstop adapter listener
  | starting | reading | queued | asking | askingInside | closing | scanning => exact ⟨rfl, rfl⟩

/-- How a question begins that has no answer yet: the server is tried, and only if it cannot be asked
    the files are scanned at once. -/
def attempt (adapter : Adapter) (inquiry : Inquiry) (query : Query) : InquiryPoint :=
  match adapter.refusal? query, inquiry.path? with
  | some reason, _ => .scanning inquiry reason
  | none, some path => .reading inquiry query path
  | none, none => .asking inquiry query (.starting query)

theorem start_of_forgotten {now : Instant} {inquiry : Inquiry} {query : Query} {adapter : Adapter}
    (hquery : inquiry.query? = .ok query)
    (hnone : (adapter.memo.get now query.memoKey).1 = none) :
    (start now inquiry adapter).2 = .moved (attempt adapter inquiry query) := by
  have hrefusal (memo : Memo MemoKey Answer) :
      ({ adapter with memo } : Adapter).refusal? query = adapter.refusal? query := rfl
  unfold start attempt
  simp only [hquery, hnone, hrefusal]
  cases adapter.refusal? query with
  | some reason => rfl
  | none =>
    cases inquiry.path? with
    | none => rfl
    | some path => rfl

end InquiryPoint

/-! ### What every event keeps -/

/-- What is asked for at a moment. -/
def AdapterMoment.call? (moment : AdapterMoment) : Option AdapterCall :=
  match moment.2 with
  | .begin call => some call
  | _ => none

namespace AdapterCourse

/-- What was asked for, in order. -/
def callsIn (past : List AdapterMoment) : List AdapterCall := past.filterMap AdapterMoment.call?

/-- An earlier call has heard an answer to a question and stored it, and nothing has been invalidated
    since. -/
inductive StoredAt (past : List AdapterMoment) (query : Query) (answer : Answer) : Instant → Prop where
  | stores (before later : List AdapterMoment) (moment : AdapterMoment) (j : Nat) (inquiry : Inquiry)
      (task : AdapterTask) (past_eq : past = before ++ moment :: later)
      (asked : (callsIn before)[j]? = some (.ask inquiry)) (query_eq : inquiry.query? = .ok query)
      (answers : adapterRules.step? moment =
        some (j, task, .finished (.sourced ⟨answer, .semantic⟩)))
      (heard : Heard before j query answer)
      (calm : ∀ other ∈ later, other.2 ≠ .occur .invalidates) :
      StoredAt past query answer moment.1.now

/-- What holds of an adapter and its past: what is remembered was stored by a call that has heard
    it, for the time that answers are kept. -/
structure Remembers (ttl : Duration) (past : List AdapterMoment) (memo : Memo MemoKey Answer) :
    Prop where
  lifetime : memo.lifetime = ttl
  stored : ∀ key answer expiry, (key, answer, expiry) ∈ memo.entries →
    ∃ query time, StoredAt past query answer time ∧ key = query.memoKey ∧ expiry = time + ttl

/-- What holds of a course and its past. -/
structure Faithful (ttl : Duration) (scanner : Scanner) (past : List AdapterMoment)
    (course : AdapterCourse) : Prop where
  kept : TableKept past course
  count : (callsIn past).length = course.tasks.length
  asked : ∀ i point, course.inquiryAt i = some point →
    (callsIn past)[i]? = some (.ask point.inquiry)
  vouched : ∀ i point, course.inquiryAt i = some point → point.Vouched past i
  remembers : Remembers ttl past course.shared.memo
  scanner : course.shared.scanner = scanner

variable {ttl : Duration} {scanner : Scanner} {past : List AdapterMoment} {course : AdapterCourse}
  {event : AdapterCourseEvent} {moment : AdapterMoment} {i : Nat} {task : AdapterTask}
  {shared : Adapter} {query : Query} {answer : Answer} {time : Instant}
  {memo memo' : Memo MemoKey Answer}

theorem callsIn_concat (past : List AdapterMoment) (moment : AdapterMoment) :
    callsIn (past ++ [moment]) = callsIn past ++ moment.call?.toList := by
  rw [callsIn, List.filterMap_append]
  cases h : moment.call? <;> simp [h, callsIn]

theorem callsIn_of_none (h : moment.call? = none) : callsIn (past ++ [moment]) = callsIn past := by
  rw [callsIn_concat, h, Option.toList_none, List.append_nil]

theorem StoredAt.concat (h : StoredAt past query answer time)
    (hcalm : moment.2 ≠ .occur .invalidates) : StoredAt (past ++ [moment]) query answer time := by
  obtain ⟨before, later, storing, j, inquiry, task, rfl, asked, query_eq, answers, heard, calm⟩ := h
  refine .stores before (later ++ [moment]) storing j inquiry task (by simp) asked query_eq answers
    heard fun other hother => ?_
  rcases List.mem_append.mp hother with hmem | hlast
  · exact calm other hmem
  · rw [List.mem_singleton.mp hlast]
    exact hcalm

theorem StoredAt.exists_inquiry (h : StoredAt past query answer time) :
    ∃ inquiry : Inquiry, inquiry.query? = .ok query := by
  obtain ⟨_, _, _, _, inquiry, _, _, _, hquery, _, _, _⟩ := h
  exact ⟨inquiry, hquery⟩

/-- What is forgotten does not matter. -/
theorem Remembers.concat (h : Remembers ttl past memo) (hcalm : moment.2 ≠ .occur .invalidates)
    (hlifetime : memo'.lifetime = memo.lifetime)
    (hsub : ∀ entry ∈ memo'.entries, entry ∈ memo.entries) :
    Remembers ttl (past ++ [moment]) memo' where
  lifetime := hlifetime.trans h.lifetime
  stored := by
    intro key answer expiry hmem
    obtain ⟨query, time, hstored, hkey, hexpiry⟩ := h.stored key answer expiry (hsub _ hmem)
    exact ⟨query, time, hstored.concat hcalm, hkey, hexpiry⟩

theorem Remembers.same (h : Remembers ttl past memo) (hcalm : moment.2 ≠ .occur .invalidates)
    (hsame : memo' = memo) : Remembers ttl (past ++ [moment]) memo' := by
  subst hsame
  exact h.concat hcalm rfl fun _ hmem => hmem

/-- A question that was heard is remembered. -/
theorem Remembers.insert (h : Remembers ttl past memo)
    (hcalm : moment.2 ≠ .occur .invalidates)
    (hstored : StoredAt (past ++ [moment]) query answer moment.1.now) :
    Remembers ttl (past ++ [moment]) (memo.insert moment.1.now query.memoKey answer) where
  lifetime := h.lifetime
  stored := by
    intro key found expiry hmem
    rcases Memo.eq_or_mem_of_mem_insert hmem with heq | hbefore
    · simp only [Prod.mk.injEq] at heq
      obtain ⟨rfl, rfl, rfl⟩ := heq
      exact ⟨query, moment.1.now, hstored, rfl, by rw [h.lifetime]⟩
    · obtain ⟨query', time, hstored', hkey, hexpiry⟩ := h.stored key found expiry hbefore
      exact ⟨query', time, hstored'.concat hcalm, hkey, hexpiry⟩

theorem inquiryAt_put (hi : course.task? i = some task)
    (standing : Standing AdapterTask (Option AdapterReply)) (j : Nat) :
    inquiryAt (course.put i shared standing) j =
      if j = i then standing.point?.bind AdapterTask.inquiry? else course.inquiryAt j := by
  by_cases hj : j = i
  · subst hj
    rw [if_pos rfl, inquiryAt, Crowd.task?_put_self hi]
  · rw [if_neg hj, inquiryAt, Crowd.task?_put_of_ne (Ne.symm hj)]
    rfl

/-- An operation goes on, or ends. -/
theorem Faithful.put (h : Faithful ttl scanner past course) (hi : course.task? i = some task)
    {standing : Standing AdapterTask (Option AdapterReply)}
    (hcall : AdapterMoment.call? (course, event) = none)
    (hkept : TableKept (past ++ [(course, event)]) (course.put i shared standing))
    (hpoint : ∀ point, standing.point?.bind AdapterTask.inquiry? = some point →
      (callsIn past)[i]? = some (.ask point.inquiry) ∧
        point.Vouched (past ++ [(course, event)]) i)
    (hmemo : Remembers ttl (past ++ [(course, event)]) shared.memo)
    (hscanner : shared.scanner = course.shared.scanner) :
    Faithful ttl scanner (past ++ [(course, event)]) (course.put i shared standing) where
  kept := hkept
  count := by
    rw [callsIn_of_none hcall, h.count]
    exact List.length_set.symm
  asked := by
    intro j point hj
    rw [callsIn_of_none hcall]
    rw [inquiryAt_put hi] at hj
    split at hj
    next heq =>
      rw [heq]
      exact (hpoint point hj).1
    next => exact h.asked j point hj
  vouched := by
    intro j point hj
    rw [inquiryAt_put hi] at hj
    split at hj
    next heq =>
      rw [heq]
      exact (hpoint point hj).2
    next => exact (h.vouched j point hj).concat _
  remembers := hmemo
  scanner := hscanner.trans h.scanner

/-- No operation goes on. -/
theorem Faithful.same (h : Faithful ttl scanner past course) {course' : AdapterCourse}
    (hcall : AdapterMoment.call? (course, event) = none)
    (hkept : TableKept (past ++ [(course, event)]) course')
    (htasks : course'.tasks = course.tasks)
    (hmemo : Remembers ttl (past ++ [(course, event)]) course'.shared.memo)
    (hscanner : course'.shared.scanner = course.shared.scanner) :
    Faithful ttl scanner (past ++ [(course, event)]) course' := by
  have hat (i : Nat) : course'.inquiryAt i = course.inquiryAt i := by
    rw [inquiryAt, inquiryAt, Crowd.task?, Crowd.task?, htasks]
  refine ⟨hkept, ?_, fun i point hi => ?_, fun i point hi => ?_, hmemo, hscanner.trans h.scanner⟩
  · rw [callsIn_of_none hcall, h.count, htasks]
  · rw [callsIn_of_none hcall]
    exact h.asked i point ((hat i).symm.trans hi)
  · exact (h.vouched i point ((hat i).symm.trans hi)).concat _

/-- A step of a question to the adapter. -/
theorem Faithful.inquiry (h : Faithful ttl scanner past course) (hfits : course.Fits)
    {point : InquiryPoint} (hi : course.task? i = some (.inquiry point)) {files : Option Tree}
    {standing : Standing AdapterTask (Option AdapterReply)} {progress : Progress InquiryPoint Sourced}
    (hstep : point.step course.now files course.shared = (shared, progress))
    (hblocked : progress ≠ .blocked)
    (hstanding : standing.point? = progress.point?.map .inquiry)
    (hkept : TableKept (past ++ [(course, .step i files)]) (course.put i shared standing)) :
    Faithful ttl scanner (past ++ [(course, .step i files)]) (course.put i shared standing) := by
  have hat : course.inquiryAt i = some point := by
    rw [inquiryAt, hi]
    rfl
  have hanswering := point.answering_step h.kept (hfits i _ hi) (h.vouched i point hat) hi files
    (by rw [hstep]; exact hblocked)
  rw [hstep] at hanswering
  have hasked := h.asked i point hat
  have hcalm : ((course, .step i files) : AdapterMoment).2 ≠ .occur .invalidates := by rintro ⟨⟩
  have hpurged {after : Memo MemoKey Answer}
      (hpurge : after = course.shared.memo.purge course.now) :
      Remembers ttl (past ++ [(course, .step i files)]) after := by
    subst hpurge
    exact h.remembers.concat hcalm rfl fun _ hmem => Memo.mem_of_mem_purge hmem
  cases hanswering with
  | goesOn _ point' stays memo inquiry_eq vouched =>
    refine h.put hi rfl hkept ?_ (memo.elim (h.remembers.same hcalm) hpurged) stays.scanner
    rw [hstanding]
    rintro _ ⟨⟩
    rw [inquiry_eq]
    exact ⟨hasked, vouched⟩
  | remembers _ query answer stays query_eq hit memo =>
    refine h.put hi rfl hkept ?_ (hpurged memo) stays.scanner
    rw [hstanding]
    rintro _ ⟨⟩
  | hears _ query answer stays query_eq heard memo =>
    refine h.put hi rfl hkept ?_ ?_ stays.scanner
    · rw [hstanding]
      rintro _ ⟨⟩
    · rw [memo]
      refine h.remembers.insert hcalm ?_
      refine .stores past [] (course, .step i files) i point.inquiry (.inquiry point) rfl hasked
        query_eq ?_ heard (by rintro _ ⟨⟩)
      rw [adapterRules.step?_step hi]
      exact congrArg (fun stepped => some (i, AdapterTask.inquiry point,
        (Stepped.map AdapterTask.inquiry AdapterReply.sourced stepped).2)) hstep
  | scans _ tree reason stays files_eq memo =>
    refine h.put hi rfl hkept ?_ (h.remembers.same hcalm memo) stays.scanner
    rw [hstanding]
    rintro _ ⟨⟩

/-- A step of any operation. -/
theorem Faithful.step (h : Faithful ttl scanner past course) (hfits : course.Fits)
    (hi : course.task? i = some task) {files : Option Tree}
    {standing : Standing AdapterTask (Option AdapterReply)}
    {progress : Progress AdapterTask AdapterReply}
    (hstep : task.step course.now files course.shared = (shared, progress))
    (hblocked : progress ≠ .blocked) (hstanding : standing.point? = progress.point?)
    (hkept : TableKept (past ++ [(course, .step i files)]) (course.put i shared standing)) :
    Faithful ttl scanner (past ++ [(course, .step i files)]) (course.put i shared standing) := by
  cases task with
  | inquiry point =>
    cases hpoint : point.step course.now files course.shared with
    | mk after found =>
      have hmap : (after, found.map AdapterTask.inquiry AdapterReply.sourced) =
          (shared, progress) := by
        rw [← hstep]
        exact congrArg (fun stepped => stepped.map AdapterTask.inquiry AdapterReply.sourced)
          hpoint.symm
      obtain ⟨rfl, rfl⟩ := Prod.mk.inj hmap
      refine h.inquiry hfits hi hpoint (fun heq => hblocked (by rw [heq]; rfl)) ?_ hkept
      rw [hstanding]
      cases found <;> rfl
  | onSession task =>
    obtain ⟨hshared, hprogress⟩ := Prod.mk.inj hstep
    have hmemo : shared.memo = course.shared.memo := by rw [← hshared]; rfl
    have hscanner : shared.scanner = course.shared.scanner := by rw [← hshared]; rfl
    refine h.put hi rfl hkept ?_ (h.remembers.same (by rintro ⟨⟩) hmemo) hscanner
    -- It is no question to the adapter, and will be none.
    rw [hstanding, ← hprogress]
    intro point hpoint
    cases hfound : (task.step course.now course.shared.session).2 <;>
      simp [Adapter.withSession, hfound, Progress.map, Progress.point?, AdapterTask.inquiry?]
        at hpoint

/-- An operation begins. A question knows what it was asked, and nothing else. -/
theorem Faithful.begins (h : Faithful ttl scanner past course) {call : AdapterCall}
    {course' : AdapterCourse}
    (heq : course' = { course with tasks := course.tasks ++ [.waiting (adapterRules.enter call)] })
    (hkept : TableKept (past ++ [(course, .begin call)]) course') :
    Faithful ttl scanner (past ++ [(course, .begin call)]) course' := by
  have hat (i : Nat) (point : InquiryPoint) (hi : course'.inquiryAt i = some point) :
      i = course.tasks.length ∧ call = .ask point.inquiry ∧
          point.Vouched (past ++ [(course, .begin call)]) i ∨
        course.inquiryAt i = some point := by
    rw [heq] at hi
    by_cases hlast : i = course.tasks.length
    · rw [hlast, inquiryAt, Crowd.task?_concat_self] at hi
      cases call with
      | ask inquiry =>
        obtain rfl := Option.some.inj hi
        exact .inl ⟨hlast, rfl, trivial⟩
      | probe | ensure | stop | reset | checkAlive => cases hi
    · rw [inquiryAt, Crowd.task?_concat_of_ne hlast] at hi
      exact .inr hi
  have hcalls : callsIn (past ++ [(course, .begin call)]) = callsIn past ++ [call] :=
    callsIn_concat past _
  have hmemo : course'.shared.memo = course.shared.memo := by rw [heq]
  have hscanner : course'.shared.scanner = course.shared.scanner := by rw [heq]
  refine ⟨hkept, ?_, fun i point hi => ?_, fun i point hi => ?_,
    h.remembers.same (by rintro ⟨⟩) hmemo, hscanner.trans h.scanner⟩
  · rw [hcalls, List.length_append, h.count, heq, List.length_append]
    rfl
  · rw [hcalls]
    rcases hat i point hi with ⟨rfl, rfl, -⟩ | hbefore
    · rw [← h.count, List.getElem?_concat_length]
    · have hasked := h.asked i point hbefore
      rw [List.getElem?_append_left (List.getElem?_eq_some_iff.mp hasked).1]
      exact hasked
  · rcases hat i point hi with ⟨-, -, hvouched⟩ | hbefore
    · exact hvouched
    · exact (h.vouched i point hbefore).concat _

/-- Whatever happens, the answers that are given again are those of the server. -/
theorem Faithful.next (h : Faithful ttl scanner past course) (hfits : course.Fits)
    (event : AdapterCourseEvent) :
    Faithful ttl scanner (past ++ [(course, event)]) (adapterRules.next course event) := by
  have hkept := h.kept.next event
  have hmoves := adapterRules.next_moves course event
  generalize adapterRules.next course event = course' at hmoves hkept ⊢
  cases hmoves with
  | blocks | misses | waits =>
    exact h.same rfl hkept rfl (h.remembers.same (by rintro ⟨⟩) rfl) rfl
  | begins call => exact h.begins rfl hkept
  | moves i files task task' shared stands step =>
    exact h.step hfits stands step (by rintro ⟨⟩) rfl hkept
  | finishes i files task result shared stands step =>
    exact h.step hfits stands step (by rintro ⟨⟩) rfl hkept
  | givesUp i task stands =>
    have hsame : (task.cancel course.shared).scanner = course.shared.scanner ∧
        (task.cancel course.shared).memo = course.shared.memo := by
      cases task with
      | inquiry point => exact point.stays_cancel course.shared
      | onSession task => exact ⟨rfl, rfl⟩
    exact h.put stands rfl hkept (by rintro point ⟨⟩)
      (h.remembers.same (by rintro ⟨⟩) hsame.2) hsame.1
  | occurs event =>
    cases event with
    | invalidates =>
      refine h.same rfl hkept rfl ⟨h.remembers.lifetime, ?_⟩ rfl
      rintro key answer expiry ⟨⟩
    | happens event => exact h.same rfl hkept rfl (h.remembers.same (by rintro ⟨⟩) rfl) rfl

section After

variable (ecosystem : Ecosystem) (root : Path) (server : ServerConfig) (session : SessionSettings)
  (settings : AdapterSettings)

theorem faithful_after (events : List AdapterCourseEvent) :
    Faithful settings.cacheTtl
      (.ofServer root server.languageId server.fileExtensions settings.scan)
      (adapterRules.history (start ecosystem root server session settings) events)
      (adapterRules.after (start ecosystem root server session settings) events) := by
  induction events using List.reverseRecOn with
  | nil =>
    refine ⟨kept_start ecosystem root server session settings, rfl, ?_, ?_, ⟨rfl, ?_⟩, rfl⟩
    · rintro i point ⟨⟩
    · rintro i point ⟨⟩
    · rintro key answer expiry ⟨⟩
  | append_singleton events event ih =>
    rw [adapterRules.history_concat, adapterRules.after_concat]
    exact ih.next (fits_after ecosystem root server session settings events) event

end After

/-! ### What is promised -/

/-- Where an answer to a question comes from. -/
inductive Justified (ttl : Duration) (scanner : Scanner) (past : List AdapterMoment)
    (course : AdapterCourse) (event : AdapterCourseEvent) (i : Nat) (inquiry : Inquiry) :
    Sourced → Prop where
  /-- The server has answered this very call. -/
  | heard (query : Query) (answer : Answer) (query_eq : inquiry.query? = .ok query)
      (heard : Heard past i query answer) :
      Justified ttl scanner past course event i inquiry ⟨answer, .semantic⟩
  /-- The server has answered an earlier call, not too long ago. -/
  | remembered (query : Query) (answer : Answer) (time : Instant)
      (query_eq : inquiry.query? = .ok query) (stored : StoredAt past query answer time)
      (young : course.now < time + ttl) :
      Justified ttl scanner past course event i inquiry ⟨answer, .semantic⟩
  /-- The files were scanned, and nothing is remembered of it. -/
  | scanned (tree : Tree) (reason : SessionError) (event_eq : event = .step i (some tree))
      (memo : (adapterRules.next course event).shared.memo = course.shared.memo) :
      Justified ttl scanner past course event i inquiry
        ⟨inquiry.scan scanner tree, .fallback reason.message⟩

/-- Answers are honest about where they come from. -/
structure Honest (ttl : Duration) (scanner : Scanner) (past : List AdapterMoment)
    (course : AdapterCourse) : Prop where
  answered : ∀ event i task result,
    adapterRules.step? (course, event) = some (i, task, .finished (.sourced result)) →
      ∃ inquiry, (callsIn past)[i]? = some (.ask inquiry) ∧
        Justified ttl scanner past course event i inquiry result
  /-- Only what a server has answered is remembered, and for a time only. -/
  remembers : Remembers ttl past course.shared.memo
  /-- A question of which no answer is remembered is put to the server, if it can be asked. -/
  tried : ∀ event i inquiry query progress,
    adapterRules.step? (course, event) = some (i, .inquiry (.starting inquiry), progress) →
      inquiry.query? = .ok query →
      (∀ answer time, StoredAt past query answer time → time + ttl ≤ course.now) →
        progress = .moved (.inquiry (.attempt course.shared inquiry query))
  /-- No two questions share what is remembered. -/
  apart : ∀ (inquiry inquiry' : Inquiry) (query query' : Query), inquiry.query? = .ok query →
    inquiry'.query? = .ok query' → query.memoKey = query'.memoKey → query = query'

/-- What is found in the memo was stored for the same question, and is not too old. -/
theorem Remembers.hit {now : Instant} {inquiry : Inquiry} (h : Remembers ttl past memo)
    (hquery : inquiry.query? = .ok query) (hhit : (memo.get now query.memoKey).1 = some answer) :
    ∃ time, StoredAt past query answer time ∧ now < time + ttl := by
  obtain ⟨expiry, hmem, hlt⟩ := Memo.mem_of_get hhit
  obtain ⟨query', time, hstored, hkey, rfl⟩ := h.stored _ _ _ hmem
  obtain ⟨inquiry', hquery'⟩ := hstored.exists_inquiry
  obtain rfl := Query.memoKey_inj hquery hquery' hkey
  exact ⟨time, hstored, hlt⟩

theorem Faithful.answered (h : Faithful ttl scanner past course) (hfits : course.Fits)
    {result : Sourced}
    (hstep : adapterRules.step? (course, event) =
      some (i, task, .finished (.sourced result))) :
    ∃ inquiry, (callsIn past)[i]? = some (.ask inquiry) ∧
      Justified ttl scanner past course event i inquiry result := by
  obtain ⟨files, rfl, hi, hprogress⟩ := adapterRules.step?_eq_some hstep
  cases task with
  | onSession task =>
    obtain ⟨reply, -, hreply⟩ := Progress.eq_finished_of_map hprogress
    cases hreply
  | inquiry point =>
    obtain ⟨found, hfound, hresult⟩ := Progress.eq_finished_of_map hprogress
    obtain rfl : found = result := AdapterReply.sourced.inj hresult
    have hat : course.inquiryAt i = some point := by
      rw [inquiryAt, hi]
      rfl
    refine ⟨point.inquiry, h.asked i point hat, ?_⟩
    have hanswering := point.answering_step h.kept (hfits i _ hi) (h.vouched i point hat) hi files
      (by rw [show (point.step course.now files course.shared).2 = .finished found from hfound]
          rintro ⟨⟩)
    cases hpoint : point.step course.now files course.shared with
    | mk after progress =>
      obtain rfl : progress = .finished found := by
        rw [← show (point.step course.now files course.shared).2 = .finished found from hfound,
          hpoint]
      rw [hpoint] at hanswering
      have hnext : (adapterRules.next course (.step i files)).shared = after := by
        rw [adapterRules.next_of_finished hi (show AdapterTask.step course.now files
          (.inquiry point) course.shared = (after, .finished (.sourced found)) from
            congrArg (fun stepped => stepped.map AdapterTask.inquiry AdapterReply.sourced) hpoint)]
        rfl
      cases hanswering with
      | remembers _ query answer stays query_eq hit memo =>
        obtain ⟨time, hstored, hyoung⟩ := h.remembers.hit query_eq hit
        exact .remembered query answer time query_eq hstored hyoung
      | hears _ query answer stays query_eq heard memo => exact .heard query answer query_eq heard
      | scans _ tree reason stays files_eq memo =>
        rw [h.scanner]
        refine .scanned tree reason (by rw [files_eq]) ?_
        rw [hnext]
        exact memo

theorem Faithful.tried (h : Faithful ttl scanner past course) {inquiry : Inquiry}
    {progress : Progress AdapterTask AdapterReply}
    (hstep : adapterRules.step? (course, event) =
      some (i, .inquiry (.starting inquiry), progress))
    (hquery : inquiry.query? = .ok query)
    (hold : ∀ answer time, StoredAt past query answer time → time + ttl ≤ course.now) :
    progress = .moved (.inquiry (.attempt course.shared inquiry query)) := by
  obtain ⟨files, rfl, hi, rfl⟩ := adapterRules.step?_eq_some hstep
  have hnone : (course.shared.memo.get course.now query.memoKey).1 = none := by
    refine Option.eq_none_iff_forall_not_mem.mpr fun answer hhit => ?_
    obtain ⟨time, hstored, hyoung⟩ := h.remembers.hit hquery hhit
    exact absurd hyoung (Nat.not_lt.mpr (hold answer time hstored))
  exact congrArg (Progress.map AdapterTask.inquiry AdapterReply.sourced)
    (InquiryPoint.start_of_forgotten hquery hnone)

section After

variable (ecosystem : Ecosystem) (root : Path) (server : ServerConfig) (session : SessionSettings)
  (settings : AdapterSettings)

/-- Whatever happens to an adapter and its session, an answer that is said to be the server's is what
    the server has said to this question, to this call or to an earlier one of which the answer is
    still good; every other answer is what a scan of the files gives, and is not remembered. -/
theorem honest_after (events : List AdapterCourseEvent) :
    Honest settings.cacheTtl
      (.ofServer root server.languageId server.fileExtensions settings.scan)
      (adapterRules.history (start ecosystem root server session settings) events)
      (adapterRules.after (start ecosystem root server session settings) events) := by
  have h := faithful_after ecosystem root server session settings events
  have hfits := fits_after ecosystem root server session settings events
  exact {
    answered := fun _ _ _ _ hstep => h.answered hfits hstep
    remembers := h.remembers
    tried := fun _ _ _ _ _ hstep hquery hold => h.tried hstep hquery hold
    apart := fun _ _ _ _ hquery hquery' hkey => Query.memoKey_inj hquery hquery' hkey }

end After

end AdapterCourse
end SymbolSearch
