import SymbolSearch.Proofs.Session.Posting
import SymbolSearch.Proofs.Sync.Room

/-!
# Backpressure

Room in the outbox of a link is wanted by operations and by the reader of the link itself. This file
shows that in any course nobody waits there in vain.

* `Post.Fair` — every outbox that is open has a writer, and serves exactly those who want room in it.
* `Post.Fair.moves`, `Session.fair_hears` and `Session.fair_writes` — whatever operations, readers
  and writers do keeps it so, and `SessionCourse.fair_after` says this of courses.
-/

namespace SymbolSearch

/-- The ticket of a reader that waits for room. -/
def ReaderPoint.ticket? : ReaderPoint → Option Ticket
  | .replying _ ticket => some ticket
  | _ => none

/-- The ticket of an item, if it waits for room in the outbox of a link. -/
def SendPoint.ticketAt? (send : SendPoint) (k : LinkId) : Option Ticket :=
  if send.link = k then some send.ticket else none

/-- The tickets of those who want room in the mailbox of a link: the operations by their numbers,
    and the reader of the link. -/
def Mailbox.ticketOf (mailbox : Mailbox) (k : LinkId) (own : Nat → Option SendPoint) :
    Option Nat → Option Ticket
  | some i => (own i).bind (·.ticketAt? k)
  | none => mailbox.reader.ticket?

/-- An open outbox has a writer, and serves those who want room in it. -/
structure Mailbox.Fair (mailbox : Mailbox) (k : LinkId) (own : Nat → Option SendPoint) : Prop where
  writer : mailbox.writer ≠ .done
  serves : mailbox.outbox.Serves (mailbox.ticketOf k own)

/-- All open outboxes are so, and nobody waits at a link that does not exist. -/
structure Post.Fair (post : Post) (own : Nat → Option SendPoint) : Prop where
  open_fair : ∀ k, (post.box k).outbox.isOpen = true → (post.box k).Fair k own
  unborn : ∀ k, post.count ≤ k → (post.box k).outbox.isOpen = false
  born : ∀ i send, own i = some send → send.link < post.count

/-! ### Those who want room -/

section Tickets

variable {mailbox : Mailbox} {k : LinkId} {own : Nat → Option SendPoint} {i : Nat}
  {send : SendPoint}

theorem SendPoint.ticketAt?_self (send : SendPoint) :
    send.ticketAt? send.link = some send.ticket := if_pos rfl

theorem Mailbox.ticketOf_update (mailbox : Mailbox) (k : LinkId) (own : Nat → Option SendPoint)
    (i : Nat) (send? : Option SendPoint) :
    mailbox.ticketOf k (Function.update own i send?) =
      Function.update (mailbox.ticketOf k own) (some i) (send?.bind (·.ticketAt? k)) := by
  funext index
  cases index with
  | none => rw [Function.update_of_ne (by simp)]; rfl
  | some j =>
    by_cases hj : j = i
    · subst hj
      rw [Function.update_self, ticketOf, Function.update_self]
    · rw [Function.update_of_ne (by simpa using hj), ticketOf, Function.update_of_ne hj]
      rfl

theorem Mailbox.ticketOf_some (hi : own i = some send) :
    mailbox.ticketOf send.link own (some i) = some send.ticket := by
  rw [ticketOf, hi]
  exact send.ticketAt?_self

/-- Nobody waits at a link behind all others. -/
theorem Mailbox.ticketOf_unborn (hreader : mailbox.reader.ticket? = none)
    (hborn : ∀ i send, own i = some send → send.link < k) (index : Option Nat) :
    mailbox.ticketOf k own index = none := by
  cases index with
  | none => exact hreader
  | some i =>
    show (own i).bind _ = none
    cases hi : own i with
    | none => rfl
    | some send => exact if_neg (Nat.ne_of_lt (hborn i send hi))

theorem Outbox.isOpen_grant {α : Type} (outbox : Outbox α) :
    outbox.grant.isOpen = outbox.isOpen := by
  unfold Outbox.grant
  split <;> rfl

end Tickets

/-! ### What operations do -/

namespace Post

variable {may : LinkId → Outgoing → Prop} {post post' : Post} {own own' : Nat → Option SendPoint}
  {k : LinkId} {i : Nat} {mailbox : Mailbox}

/-- One mailbox changes, and at all others the same senders wait. -/
theorem Fair.change (h : post.Fair own)
    (hself : mailbox.outbox.isOpen = true → k < post.count ∧ mailbox.Fair k own')
    (hother : ∀ j, j ≠ k → ∀ i, (own' i).bind (·.ticketAt? j) = (own i).bind (·.ticketAt? j))
    (hborn : ∀ i send, own' i = some send → send.link < post.count) (sender : Option SendPoint) :
    Fair { post with box := Function.update post.box k mailbox, own := sender } own' where
  open_fair := by
    intro j hopen
    by_cases hj : j = k
    · subst hj
      simp only [Function.update_self] at hopen ⊢
      exact (hself hopen).2
    · simp only [Function.update_of_ne hj] at hopen ⊢
      obtain ⟨hwriter, hserves⟩ := h.open_fair j hopen
      refine ⟨hwriter, hserves.congr fun index => ?_⟩
      cases index with
      | none => rfl
      | some i => exact hother j hj i
  unborn := by
    intro j hj
    by_cases hjk : j = k
    · subst hjk
      simp only [Function.update_self]
      by_contra hopen
      have hlt := (hself (Bool.not_eq_false _ ▸ hopen)).1
      exact Nat.lt_irrefl _ (Nat.lt_of_lt_of_le hlt hj)
    · simp only [Function.update_of_ne hjk]
      exact h.unborn j hj
  born := hborn

theorem Fair.lt_count (h : post.Fair own) (hopen : (post.box k).outbox.isOpen = true) :
    k < post.count := by
  by_contra hle
  have hclosed := h.unborn k (Nat.le_of_not_lt hle)
  rw [hopen] at hclosed
  cases hclosed

/-- A sender that waits elsewhere, or nowhere, is not seen. -/
theorem bind_update_of_ne {send? : Option SendPoint} {j : LinkId}
    (hbefore : (own i).bind (·.ticketAt? j) = none) (hafter : send?.bind (·.ticketAt? j) = none)
    (other : Nat) :
    (Function.update own i send? other).bind (·.ticketAt? j) =
      (own other).bind (·.ticketAt? j) := by
  by_cases hother : other = i
  · subst hother
    rw [Function.update_self, hafter, hbefore]
  · rw [Function.update_of_ne hother]

theorem born_update {count : Nat} {send? : Option SendPoint}
    (hborn : ∀ i send, own i = some send → send.link < count)
    (hsend : ∀ send, send? = some send → send.link < count) (other : Nat) (send : SendPoint)
    (h : Function.update own i send? other = some send) : send.link < count := by
  by_cases hother : other = i
  · subst hother
    rw [Function.update_self] at h
    exact hsend send h
  · rw [Function.update_of_ne hother] at h
    exact hborn other send h

/-- A move of one sender. -/
theorem Fair.mail (h : post.Fair own) (hi : own i = post.own) (hmove : MailMove may post post') :
    post'.Fair (Function.update own i post'.own) := by
  have hgone {send : SendPoint} (hsend : post.own = some send) {j : LinkId} (hj : j ≠ send.link) :
      (own i).bind (·.ticketAt? j) = none := by
    rw [hi, hsend]
    exact if_neg hj.symm
  have hborn : ∀ j send, Function.update own i none j = some send → send.link < post.count :=
    born_update h.born fun send hsend => nomatch hsend
  have hnobody {send? : Option SendPoint} (hnone : send? = none) {j : LinkId} :
      send?.bind (·.ticketAt? j) = none := by rw [hnone]; rfl
  cases hmove with
  | puts k item outbox hmay free offer =>
    have hopen := (Outbox.items_of_offer_sent offer).1
    obtain ⟨hwriter, hserves⟩ := h.open_fair k hopen
    have hsame : Function.update own i none = own := by
      rw [← free, ← hi, Function.update_eq_self]
    show Fair { post with box := Function.update post.box k { post.box k with outbox }, own := none }
      (Function.update own i none)
    rw [hsame]
    have hself : Mailbox.Fair { post.box k with outbox } k own := ⟨hwriter, hserves.offer offer⟩
    exact h.change (fun _ => ⟨h.lt_count hopen, hself⟩) (fun _ _ _ => rfl) h.born none
  | joins k item outbox ticket hmay free offer =>
    have hnone : own i = none := hi.trans free
    have helse (j : LinkId) (hj : j ≠ k) :
        (some (⟨k, ticket, item⟩ : SendPoint)).bind (·.ticketAt? j) = none := if_neg hj.symm
    refine h.change (fun hopen' => ?_)
      (fun j hj => bind_update_of_ne (hnobody hnone) (helse j hj)) ?_ _
    · have hopen : (post.box k).outbox.isOpen = true :=
        (Outbox.items_of_offer_waits offer).1.symm.trans hopen'
      obtain ⟨hwriter, hserves⟩ := h.open_fair k hopen
      have hself : (post.box k).ticketOf k own (some i) = none := hnobody hnone
      have hjoin := hserves.join hself offer
      refine ⟨h.lt_count hopen, hwriter, ?_⟩
      rw [Mailbox.ticketOf_update]
      show outbox.Serves (Function.update _ (some i) (SendPoint.ticketAt? ⟨k, ticket, item⟩ k))
      rw [SendPoint.ticketAt?, if_pos rfl]
      exact hjoin
    · refine born_update h.born ?_
      rintro send ⟨⟩
      -- A link that does not exist refuses whatever is offered.
      unfold Outbox.offer at offer
      split at offer
      · cases offer
      next hopen => exact h.lt_count (by simpa using hopen)
  | claims send outbox hmay waits claim =>
    have hopen := (Outbox.items_of_claim_sent claim).1
    obtain ⟨hwriter, hserves⟩ := h.open_fair send.link hopen
    have hself : Mailbox.Fair { post.box send.link with outbox } send.link
        (Function.update own i none) := by
      refine ⟨hwriter, ?_⟩
      rw [Mailbox.ticketOf_update]
      exact hserves.claim (Mailbox.ticketOf_some (hi.trans waits)) claim
    exact h.change (fun _ => ⟨h.lt_count hopen, hself⟩)
      (fun j hj => bind_update_of_ne (hgone waits hj) rfl) hborn _
  | loses send waits closed =>
    have hbox : post.box = Function.update post.box send.link (post.box send.link) :=
      (Function.update_eq_self ..).symm
    show Fair { post with own := none } _
    rw [hbox]
    refine h.change (fun hopen => ?_) (fun j hj => bind_update_of_ne (hgone waits hj) rfl)
      hborn _
    rw [closed] at hopen
    cases hopen
  | abandons send waits =>
    refine h.change (fun hopen' => ?_) (fun j hj => bind_update_of_ne (hgone waits hj) rfl)
      hborn _
    have hopen : (post.box send.link).outbox.isOpen = true := by
      rw [← (Outbox.items_abandon (post.box send.link).outbox send.ticket).1]
      exact hopen'
    obtain ⟨hwriter, hserves⟩ := h.open_fair send.link hopen
    refine ⟨h.lt_count hopen, hwriter, ?_⟩
    rw [Mailbox.ticketOf_update]
    exact hserves.abandon (Mailbox.ticketOf_some (hi.trans waits))

/-- A move of an operation. -/
theorem Fair.move (h : post.Fair own) (hi : own i = post.own) (hmove : PostMove may post post') :
    post'.Fair (Function.update own i post'.own) := by
  have hsame : Function.update own i post.own = own := by rw [← hi, Function.update_eq_self]
  cases hmove with
  | mails move => exact h.mail hi move
  | closes k mailbox closed empty =>
    show Fair _ (Function.update own i post.own)
    rw [hsame]
    refine h.change (fun hopen => ?_) (fun _ _ _ => rfl) h.born _
    rw [closed] at hopen
    cases hopen
  | opens gone =>
    show Fair _ (Function.update own i post.own)
    rw [hsame]
    have hborn (i : Nat) (send : SendPoint) (hsend : own i = some send) :
        send.link < post.count + 1 := Nat.lt_succ_of_lt (h.born i send hsend)
    constructor
    · intro k hopen
      by_cases hk : k = post.count
      · subst hk
        simp only [Function.update_self]
        refine ⟨by rintro ⟨⟩, ?_⟩
        exact Outbox.Serves.fresh (Mailbox.ticketOf_unborn rfl h.born) 0
      · simp only [Function.update_of_ne hk] at hopen ⊢
        exact h.open_fair k hopen
    · intro k hk
      have hne : k ≠ post.count := Nat.ne_of_gt hk
      simp only [Function.update_of_ne hne]
      exact h.unborn k (Nat.le_of_succ_le hk)
    · exact hborn

/-- Any number of moves of an operation. -/
theorem Fair.moves (h : post.Fair own) (hi : own i = post.own) (hmoves : PostMoves may post post') :
    post'.Fair (Function.update own i post'.own) := by
  induction hmoves with
  | refl => rwa [← hi, Function.update_eq_self]
  | tail _ hmove ih =>
    have hnext := ih.move (i := i) (Function.update_self ..) hmove
    rwa [Function.update_idem] at hnext

/-- Which sender a post is looked at for does not matter. -/
theorem Fair.forSender (h : post.Fair own) (sender : Option SendPoint) :
    Fair { post with own := sender } own := ⟨h.open_fair, h.unborn, h.born⟩

end Post

/-! ### What readers and writers do -/

namespace Mailbox

variable {mailbox mailbox' : Mailbox} {k : LinkId} {own : Nat → Option SendPoint}

theorem ticketOf_reader (reader : ReaderPoint) (outbox : Outbox Outgoing) :
    ({ mailbox with outbox, reader } : Mailbox).ticketOf k own =
      Function.update (mailbox.ticketOf k own) none reader.ticket? := by
  funext index
  cases index with
  | none => rw [Function.update_self]; rfl
  | some i => rw [Function.update_of_ne (by simp)]; rfl

theorem Hears.isOpen_eq (h : mailbox.Hears mailbox') :
    mailbox'.outbox.isOpen = mailbox.outbox.isOpen := by
  cases h with
  | stays | loses | ends => rfl
  | puts reply outbox reads offer =>
    obtain ⟨hopen, hopen', -⟩ := Outbox.items_of_offer_sent offer
    exact hopen'.trans hopen.symm
  | joins reply outbox ticket reads offer => exact (Outbox.items_of_offer_waits offer).1
  | claims reply outbox ticket waits claim =>
    obtain ⟨hopen, hopen', -⟩ := Outbox.items_of_claim_sent claim
    exact hopen'.trans hopen.symm

theorem Fair.hears (h : mailbox.Fair k own) (hopen : mailbox.outbox.isOpen = true)
    (hears : mailbox.Hears mailbox') : mailbox'.Fair k own := by
  obtain ⟨hwriter, hserves⟩ := h
  have hself {reader : ReaderPoint} (hreader : mailbox.reader = reader) :
      mailbox.ticketOf k own none = reader.ticket? := congrArg ReaderPoint.ticket? hreader
  cases hears with
  | stays => exact ⟨hwriter, hserves⟩
  | puts reply outbox reads offer => exact ⟨hwriter, hserves.offer offer⟩
  | joins reply outbox ticket reads offer =>
    refine ⟨hwriter, ?_⟩
    rw [ticketOf_reader]
    exact hserves.join (hself reads) offer
  | claims reply outbox ticket waits claim =>
    refine ⟨hwriter, ?_⟩
    rw [ticketOf_reader]
    exact hserves.claim (hself waits) claim
  | loses closed =>
    rw [closed] at hopen
    cases hopen
  | ends reads =>
    refine ⟨hwriter, ?_⟩
    rw [ticketOf_reader, show ReaderPoint.ticket? .done = mailbox.ticketOf k own none from
      (hself reads).symm, Function.update_eq_self]
    exact hserves

theorem Fair.writes (h : mailbox.Fair k own) (hopen : mailbox'.outbox.isOpen = true)
    {taken : Option Outgoing} (writes : mailbox.Writes taken mailbox') : mailbox'.Fair k own := by
  obtain ⟨hwriter, hserves⟩ := h
  cases writes with
  | stays => exact ⟨hwriter, hserves⟩
  | takes item message rest items idle isMessage =>
    exact ⟨by rintro ⟨⟩, hserves.take items⟩
  | gives bytes writer busy goesOn => exact ⟨goesOn, hserves⟩
  | closes _ closed empty =>
    rw [closed] at hopen
    cases hopen

theorem Writes.isOpen_of {taken : Option Outgoing} (writes : mailbox.Writes taken mailbox')
    (hopen : mailbox'.outbox.isOpen = true) : mailbox.outbox.isOpen = true := by
  cases writes with
  | stays | gives => exact hopen
  | takes item message rest items idle isMessage => rwa [Outbox.isOpen_grant] at hopen
  | closes _ closed empty =>
    rw [closed] at hopen
    cases hopen

end Mailbox

namespace Session

variable {s s' : Session} {own : Nat → Option SendPoint} {id : LinkId}

/-- What happens within one mailbox. -/
theorem fair_within {step : Mailbox → Mailbox → Prop} (h : (s.post none).Fair own)
    (hwithin : Within step id s s')
    (hfair : ∀ mailbox', step (s.mailbox id) mailbox' → mailbox'.outbox.isOpen = true →
      (s.mailbox id).outbox.isOpen = true ∧
        ((s.mailbox id).Fair id own → mailbox'.Fair id own)) : (s'.post none).Fair own := by
  rw [hwithin.post]
  refine h.change (fun hopen' => ?_) (fun _ _ _ => rfl) h.born none
  obtain ⟨hopen, hkeeps⟩ := hfair _ hwithin.step hopen'
  exact ⟨h.lt_count hopen, hkeeps (h.open_fair id hopen)⟩

/-- Whatever is no step of an operation. -/
theorem fair_undergo (h : (s.post none).Fair own) (now : Instant) (event : SessionEvent) :
    ((s.undergo now event).post none).Fair own := by
  obtain ⟨id, -, ⟨-, hwithin⟩ | hwithin⟩ := within_undergo now event s
  · refine fair_within h hwithin fun mailbox' hears hopen' => ?_
    have hopen : (s.mailbox id).outbox.isOpen = true := hears.isOpen_eq.symm.trans hopen'
    exact ⟨hopen, fun hfair => hfair.hears hopen hears⟩
  · exact fair_within h hwithin fun mailbox' writes hopen' =>
      ⟨writes.isOpen_of hopen', fun hfair => hfair.writes hopen' writes⟩

end Session

/-! ### Courses -/

namespace SessionCourse

/-- The item for which an operation of a course waits for room. -/
def sendOf (course : SessionCourse) (i : Nat) : Option SendPoint :=
  (course.task? i).bind SessionTask.send?

/-- Everyone who waits for room will get it when there is some. -/
def Fair (course : SessionCourse) : Prop := (course.shared.post none).Fair course.sendOf

variable {course : SessionCourse} {i : Nat} {task : SessionTask}

theorem sendOf_put {shared : Session} (hi : course.task? i = some task)
    (standing : Standing SessionTask (Option SessionReply)) :
    sendOf (course.put i shared standing) =
      Function.update course.sendOf i (standing.point?.bind SessionTask.send?) := by
  funext j
  by_cases hj : j = i
  · subst hj
    rw [Function.update_self, sendOf, Crowd.task?_put_self hi]
  · rw [Function.update_of_ne hj, sendOf, Crowd.task?_put_of_ne (Ne.symm hj)]
    rfl

theorem sendOf_eq (hi : course.task? i = some task) : course.sendOf i = task.send? := by
  rw [sendOf, hi]
  rfl

/-- An operation has gone on. -/
theorem Fair.put {shared : Session} {may : LinkId → Outgoing → Prop} (h : course.Fair)
    (hi : course.task? i = some task) {standing : Standing SessionTask (Option SessionReply)}
    (hmoves : PostMoves may (course.shared.post task.send?)
      (shared.post (standing.point?.bind SessionTask.send?))) :
    Fair (course.put i shared standing) := by
  have hfair := Post.Fair.moves (h.forSender task.send?) (i := i) (sendOf_eq hi) hmoves
  show (shared.post none).Fair _
  rw [sendOf_put hi]
  exact hfair.forSender none

theorem Fair.next (h : course.Fair) (event : CourseEvent) :
    Fair (sessionRules.next course event) := by
  have hmoves := sessionRules.next_moves course event
  generalize sessionRules.next course event = course' at hmoves
  cases hmoves with
  | blocks | misses | waits => exact h
  | begins call =>
    have hsame (i : Nat) : sendOf { course with
        tasks := course.tasks ++ [.waiting (sessionRules.enter call)] } i = course.sendOf i := by
      by_cases hlast : i = course.tasks.length
      · rw [hlast, sendOf, Crowd.task?_concat_self, sendOf, Crowd.task?_length]
        cases call <;> rfl
      · rw [sendOf, Crowd.task?_concat_of_ne hlast]
        rfl
    show (course.shared.post none).Fair _
    rw [show sendOf _ = course.sendOf from funext hsame]
    exact h
  | moves i input task task' shared stands step =>
    have hstep : task.step course.now course.shared = (shared, .moved task') := step
    have hpost : PostMoves (fun _ _ => True) (course.shared.post task.send?) _ :=
      task.post_step course.now course.shared fun _ _ _ => trivial
    rw [hstep] at hpost
    exact h.put stands hpost
  | finishes i input task result shared stands step =>
    have hstep : task.step course.now course.shared = (shared, .finished result) := step
    have hpost : PostMoves (fun _ _ => True) (course.shared.post task.send?) _ :=
      task.post_step course.now course.shared fun _ _ _ => trivial
    rw [hstep] at hpost
    exact h.put stands hpost
  | givesUp i task stands =>
    have hpost : PostMoves (fun _ _ => True) (course.shared.post task.send?) _ :=
      task.post_cancel course.shared
    exact h.put stands hpost
  | occurs event => exact Session.fair_undergo h course.now event

theorem fair_after (settings : SessionSettings) (hello : Except String ClientHello)
    (events : List CourseEvent) : Fair (sessionRules.after (start settings hello) events) := by
  induction events using List.reverseRecOn with
  | nil =>
    -- There is no link yet, so all outboxes are closed.
    have hclosed (k : LinkId) :
        (((start settings hello).shared.post none).box k).outbox.isOpen = false := rfl
    refine ⟨fun k hopen => ?_, fun k _ => hclosed k, by rintro i send ⟨⟩⟩
    exact absurd ((hclosed k).symm.trans hopen) (by simp)
  | append_singleton events event ih =>
    rw [sessionRules.after_concat]
    exact ih.next event

end SessionCourse
end SymbolSearch
