import SymbolSearch.Proofs.Session.Course
import SymbolSearch.Proofs.Session.Lifecycle

/-!
# What goes into an outbox

Sending is the only way to say anything: everything else leaves the words in the outboxes of a
session alone, gives a link up with what it had to say, or adds a link that has nothing to say yet.

* `Voice` — the words that wait in an outbox, and whether it takes more; `Session.voice`.
* `Session.Still`, `Session.Hush` and `Session.Tells` — what can happen to the voices of a session.
* `SendMoves` and `CallMoves` — what a step of sending or asking says.
* `Session.hears_undergo` — a writer takes the words of its link in the order in which they came,
  and nothing else says anything.
-/

namespace SymbolSearch

/-- What the client still has to say on a link. -/
structure Voice where
  isOpen : Bool
  words : List Utterance

/-- A link that was given up, or that does not exist yet. -/
def Voice.gone : Voice := ⟨false, []⟩

/-! ### Outboxes -/

namespace Outbox

/-- What is left of an outbox if one listens to the client's own words only. -/
def voice (outbox : Outbox Outgoing) : Voice :=
  ⟨outbox.isOpen, outbox.items.filterMap Outgoing.utterance?⟩

variable {outbox outbox' : Outbox Outgoing} {item : Outgoing} {ticket : Ticket}

@[simp]
theorem voice_retain (outbox : Outbox Outgoing) : outbox.retain.voice = outbox.voice := rfl

@[simp]
theorem voice_release (outbox : Outbox Outgoing) : outbox.release.voice = outbox.voice := rfl

@[simp]
theorem voice_close (outbox : Outbox Outgoing) : outbox.close.voice = .gone := rfl

@[simp]
theorem voice_grant (outbox : Outbox Outgoing) : outbox.grant.voice = outbox.voice := by
  unfold grant
  split <;> rfl

@[simp]
theorem voice_abandon (outbox : Outbox Outgoing) (ticket : Ticket) :
    (outbox.abandon ticket).voice = outbox.voice := by
  unfold abandon
  split
  · exact voice_grant _
  · rfl

/-- An item that gets in stands behind everything else. -/
structure Gets (outbox : Outbox Outgoing) (item : Outgoing) (outbox' : Outbox Outgoing) : Prop where
  isOpen : outbox.isOpen = true
  voice : outbox'.voice = ⟨true, outbox.voice.words ++ item.utterance?.toList⟩

theorem gets_concat (hopen : outbox.isOpen = true) (hopen' : outbox'.isOpen = true)
    (hitems : outbox'.items = outbox.items ++ [item]) : Gets outbox item outbox' := by
  refine ⟨hopen, ?_⟩
  simp only [voice, hopen', hitems, List.filterMap_append]
  cases hword : item.utterance? with
  | none => simp [hword]
  | some word => simp [hword]

theorem gets_of_offer (h : outbox.offer item = (outbox', .sent)) : Gets outbox item outbox' := by
  unfold offer at h
  split at h
  · cases h
  next hopen =>
    have hopen : outbox.isOpen = true := by simpa using hopen
    split at h
    · obtain ⟨rfl, -⟩ := Prod.mk.inj h
      exact gets_concat hopen hopen rfl
    · cases h

theorem closed_of_offer (h : outbox.offer item = (outbox', .refused)) : outbox.isOpen = false := by
  unfold offer at h
  split at h
  next hopen => simpa using hopen
  next =>
    split at h
    · cases h
    · cases h

theorem voice_of_offer_waits (h : outbox.offer item = (outbox', .waits ticket)) :
    outbox.isOpen = true ∧ outbox'.voice = outbox.voice := by
  unfold offer at h
  split at h
  · cases h
  next hopen =>
    split at h
    · cases h
    · obtain ⟨rfl, -⟩ := Prod.mk.inj h
      exact ⟨by simpa using hopen, rfl⟩

theorem gets_of_claim (h : outbox.claim ticket item = (outbox', .sent)) :
    Gets outbox item outbox' := by
  unfold claim at h
  split at h
  · cases h
  next hopen =>
    have hopen : outbox.isOpen = true := by simpa using hopen
    split at h
    · obtain ⟨rfl, -⟩ := Prod.mk.inj h
      exact gets_concat hopen hopen rfl
    · cases h

theorem closed_of_claim (h : outbox.claim ticket item = (outbox', .refused)) :
    outbox.isOpen = false ∧ outbox' = outbox := by
  unfold claim at h
  split at h
  next hopen =>
    obtain ⟨rfl, -⟩ := Prod.mk.inj h
    exact ⟨by simpa using hopen, rfl⟩
  next =>
    split at h
    · cases h
    · cases h

end Outbox

/-! ### Sessions -/

namespace Session

/-- What the client still has to say on a link of a session. -/
def voice (s : Session) (k : LinkId) : Voice := ((s.links[k]?).map (·.outbox.voice)).getD .gone

/-- Nothing is said, and no link comes or goes. -/
structure Still (s s' : Session) : Prop where
  length : s'.links.length = s.links.length
  voice : ∀ k, s'.voice k = s.voice k

/-- Nothing is said, but links may come and go. -/
structure Hush (s s' : Session) : Prop where
  length : s.links.length ≤ s'.links.length
  voice : ∀ k, s'.voice k = s.voice k ∨ s'.voice k = .gone ∨
    s.links.length ≤ k ∧ s'.voice k = ⟨true, []⟩

/-- A word is said on a link. -/
structure Tells (k : LinkId) (word : Utterance) (s s' : Session) : Prop where
  length : s'.links.length = s.links.length
  isOpen : (s.voice k).isOpen = true
  self : s'.voice k = ⟨true, (s.voice k).words ++ [word]⟩
  other : ∀ j, j ≠ k → s'.voice j = s.voice j

/-- An item is put into the outbox of a link. -/
def Puts (k : LinkId) (item : Outgoing) (s s' : Session) : Prop :=
  match item.utterance? with
  | some word => Tells k word s s'
  | none => Still s s'

variable {s m s' : Session} {now : Instant} {id k : LinkId} {word : Utterance} {item : Outgoing}

theorem Still.refl (s : Session) : Still s s := ⟨rfl, fun _ => rfl⟩

theorem still_of_links (h : s'.links = s.links) : Still s s' :=
  ⟨congrArg List.length h, fun k => by simp only [voice, h]⟩

theorem hush_of_links (h : s'.links = s.links) : Hush s s' :=
  ⟨Nat.le_of_eq (congrArg List.length h).symm, fun k => .inl (by simp only [voice, h])⟩

theorem Still.trans (h : Still s m) (h' : Still m s') : Still s s' :=
  ⟨h'.length.trans h.length, fun k => (h'.voice k).trans (h.voice k)⟩

theorem Still.hush (h : Still s s') : Hush s s' :=
  ⟨Nat.le_of_eq h.length.symm, fun k => .inl (h.voice k)⟩

theorem Hush.refl (s : Session) : Hush s s := (Still.refl s).hush

theorem Hush.trans (h : Hush s m) (h' : Hush m s') : Hush s s' := by
  refine ⟨Nat.le_trans h.length h'.length, fun k => ?_⟩
  rcases h'.voice k with hsame | hgone | ⟨hnew, hopen⟩
  · rw [hsame]
    exact h.voice k
  · exact .inr (.inl hgone)
  · exact .inr (.inr ⟨Nat.le_trans h.length hnew, hopen⟩)

theorem Still.trans_tells (h : Still s m) (h' : Tells k word m s') : Tells k word s s' where
  length := h'.length.trans h.length
  isOpen := by rw [← h.voice]; exact h'.isOpen
  self := by rw [← h.voice]; exact h'.self
  other := fun j hj => (h'.other j hj).trans (h.voice j)

theorem Tells.trans_still (h : Tells k word s m) (h' : Still m s') : Tells k word s s' where
  length := h'.length.trans h.length
  isOpen := h.isOpen
  self := (h'.voice k).trans h.self
  other := fun j hj => (h'.voice j).trans (h.other j hj)

theorem Puts.tells (h : Puts k item s s') (hword : item.utterance? = some word) :
    Tells k word s s' := by
  rwa [Puts, hword] at h

theorem Puts.still (h : Puts k item s s') (hword : item.utterance? = none) : Still s s' := by
  rwa [Puts, hword] at h

/-! ### Links -/

theorem voice_eq (h : s.links[k]? = some link) : s.voice k = link.outbox.voice := by
  rw [voice, h]
  rfl

theorem voice_updateLink_self {change : Link → Link} {link : Link}
    (h : s.links[id]? = some link) :
    (s.updateLink id change).voice id = (change link).outbox.voice := by
  refine voice_eq ?_
  simp [updateLink, h]

theorem voice_updateLink_of_ne (change : Link → Link) (h : k ≠ id) :
    (s.updateLink id change).voice k = s.voice k := by
  simp [voice, updateLink, h.symm]

theorem length_updateLink (s : Session) (id : LinkId) (change : Link → Link) :
    (s.updateLink id change).links.length = s.links.length := List.length_modify _ _ _

theorem updateLink_of_none {change : Link → Link} (h : s.links[id]? = none) :
    s.updateLink id change = s := by
  simp [updateLink, List.modify_eq_self (List.getElem?_eq_none_iff.mp h)]

/-- A change of a link that says nothing, or that gives it up. -/
theorem hush_updateLink (s : Session) (id : LinkId) {change : Link → Link}
    (h : ∀ link, s.links[id]? = some link →
      (change link).outbox.voice = link.outbox.voice ∨ (change link).outbox.voice = .gone) :
    Hush s (s.updateLink id change) := by
  refine ⟨Nat.le_of_eq (length_updateLink s id change).symm, fun k => ?_⟩
  by_cases hk : k = id
  · subst hk
    cases hlink : s.links[k]? with
    | none =>
      rw [updateLink_of_none hlink]
      exact .inl rfl
    | some link =>
      rw [voice_updateLink_self hlink, voice_eq hlink]
      exact (h link hlink).imp_right .inl
  · exact .inl (voice_updateLink_of_ne change hk)

theorem still_updateLink (s : Session) (id : LinkId) {change : Link → Link}
    (h : ∀ link, s.links[id]? = some link → (change link).outbox.voice = link.outbox.voice) :
    Still s (s.updateLink id change) := by
  refine ⟨length_updateLink s id change, fun k => ?_⟩
  by_cases hk : k = id
  · subst hk
    cases hlink : s.links[k]? with
    | none => rw [updateLink_of_none hlink]
    | some link => rw [voice_updateLink_self hlink, voice_eq hlink, h link hlink]
  · exact voice_updateLink_of_ne change hk

theorem still_updateOutbox (s : Session) (id : LinkId)
    {change : Outbox Outgoing → Outbox Outgoing}
    (h : ∀ outbox, (change outbox).voice = outbox.voice) : Still s (s.updateOutbox id change) :=
  still_updateLink s id fun link _ => h link.outbox

theorem puts_updateOutbox {link : Link} {outbox : Outbox Outgoing}
    (hlink : s.links[id]? = some link) (h : link.outbox.Gets item outbox) :
    Puts id item s (s.updateOutbox id fun _ => outbox) := by
  unfold Puts
  split
  next word hword =>
    refine ⟨length_updateLink s id _, by rw [voice_eq hlink]; exact h.isOpen, ?_,
      fun j hj => voice_updateLink_of_ne _ hj⟩
    rw [updateOutbox, voice_updateLink_self hlink, voice_eq hlink, h.voice, hword]
    rfl
  next hword =>
    refine still_updateLink s id fun found hfound => ?_
    obtain rfl : link = found := Option.some.inj (hlink.symm.trans hfound)
    rw [h.voice, hword, Option.toList_none, List.append_nil, ← h.isOpen]
    rfl

theorem still_releaseWriter (s : Session) : Still s s.releaseWriter := by
  unfold releaseWriter
  split
  next id _ => exact (still_updateOutbox s id Outbox.voice_release).trans (still_of_links rfl)
  next => exact .refl s

theorem voice_stopReader (link : Link) : link.stopReader.outbox.voice = link.outbox.voice := by
  unfold Link.stopReader
  split
  · rfl
  · simp
  · simp

theorem hush_drop (s : Session) (id : LinkId) : Hush s (s.updateLink id Link.drop) :=
  hush_updateLink s id fun _ _ => .inr rfl

theorem hush_dropConnection (s : Session) : Hush s s.dropConnection := by
  unfold dropConnection
  split
  next id _ => exact (hush_drop s id).trans (hush_of_links rfl)
  next => exact .refl s

theorem still_markCrashed (s : Session) (now : Instant) : Still s (s.markCrashed now) :=
  (still_releaseWriter s).trans (still_of_links rfl)

/-- The link to a new server has nothing to say yet. -/
theorem hush_addLink (s : Session) (process : ServerProcess) : Hush s (s.addLink process) := by
  refine ⟨by simp [addLink], fun k => ?_⟩
  rcases Nat.lt_trichotomy k s.links.length with hlt | rfl | hgt
  · refine .inl ?_
    simp only [voice, addLink, List.getElem?_append_left hlt]
  · refine .inr (.inr ⟨Nat.le_refl _, ?_⟩)
    simp [voice, addLink, Outbox.voice]
  · refine .inr (.inl ?_)
    have hnone : (s.addLink process).links[k]? = none := by
      rw [List.getElem?_eq_none_iff]
      simp [addLink]
      omega
    rw [voice, hnone]
    rfl

end Session

open Session

variable {s m : Session} {k : LinkId}

/-! ### Sending and asking -/

/-- What a step of sending an item through a link can do. -/
inductive SendMoves (s : Session) (link : LinkId) (item : Outgoing) :
    Stepped Session SendPoint Bool → Prop where
  | sent (m : Session) (puts : Puts link item s m) : SendMoves s link item (m, .finished true)
  | refused (m : Session) (still : Still s m) (closed : (s.voice link).isOpen = false) :
      SendMoves s link item (m, .finished false)
  | waits (m : Session) (send : SendPoint) (still : Still s m)
      (isOpen : (s.voice link).isOpen = true) (link_eq : send.link = link)
      (item_eq : send.item = item) : SendMoves s link item (m, .moved send)
  | blocks : SendMoves s link item (s, .blocked)

namespace SendPoint

theorem voice_of_none (h : s.links[k]? = none) : s.voice k = .gone := by
  rw [Session.voice, h]
  rfl

theorem begin_moves (s : Session) (link : LinkId) (item : Outgoing) :
    SendMoves s link item (SendPoint.begin s link item) := by
  unfold SendPoint.begin
  split
  next hlink => exact .refused s (.refl s) (by rw [voice_of_none hlink]; rfl)
  next found hlink =>
    split
    next hoffer => exact .sent _ (puts_updateOutbox hlink (Outbox.gets_of_offer hoffer))
    next hoffer =>
      exact .refused s (.refl s) (by rw [voice_eq hlink]; exact Outbox.closed_of_offer hoffer)
    next outbox ticket hoffer =>
      obtain ⟨hopen, hvoice⟩ := Outbox.voice_of_offer_waits hoffer
      refine .waits _ _ (still_updateLink s link fun other hother => ?_)
        (by rw [voice_eq hlink]; exact hopen) rfl rfl
      obtain rfl : found = other := Option.some.inj (hlink.symm.trans hother)
      exact (Outbox.voice_retain outbox).trans hvoice

theorem step_moves (point : SendPoint) (s : Session) :
    SendMoves s point.link point.item (point.step s) := by
  unfold SendPoint.step
  split
  next hlink => exact .refused s (.refl s) (by rw [voice_of_none hlink]; rfl)
  next found hlink =>
    split
    next outbox hclaim =>
      have hgets := Outbox.gets_of_claim hclaim
      exact .sent _ (puts_updateOutbox hlink ⟨hgets.isOpen, hgets.voice⟩)
    next outbox hclaim =>
      obtain ⟨hclosed, rfl⟩ := Outbox.closed_of_claim hclaim
      refine .refused _ (still_updateLink s point.link fun other hother => ?_)
        (by rw [voice_eq hlink]; exact hclosed)
      obtain rfl : found = other := Option.some.inj (hlink.symm.trans hother)
      rfl
    next => exact .blocks

theorem still_cancel (point : SendPoint) (s : Session) : Still s (point.cancel s) :=
  still_updateOutbox s point.link fun outbox => by simp

end SendPoint

/-- What a request says when it is sent. -/
def Call.word : Call → Utterance
  | .hello _ => .hello
  | .query _ => .work
  | .shutdown => .farewell

theorem utterance?_request (id : Nat) (call : Call) :
    (Outgoing.request id call).utterance? = some call.word := by
  cases call <;> rfl

/-- What a step of a request can do that is not sent yet. -/
inductive CallMoves (s : Session) (link : LinkId) (word : Utterance) :
    Stepped Session CallPoint (Except SessionError Json) → Prop where
  | sent (m : Session) (reply : PendingReply) (tells : Tells link word s m) :
      CallMoves s link word (m, .moved (.waiting reply link))
  | waits (m : Session) (reply : PendingReply) (send : SendPoint) (still : Still s m)
      (link_eq : send.link = link) (word_eq : send.item.utterance? = some word) :
      CallMoves s link word (m, .moved (.sending reply send))
  | refused (m : Session) (still : Still s m) (closed : (s.voice link).isOpen = false) :
      CallMoves s link word (m, .finished (.error .processExit))
  | blocks (m : Session) (still : Still s m) : CallMoves s link word (m, .blocked)

namespace CallPoint

variable {word : Utterance}

theorem still_refuse (s : Session) (reply : PendingReply) (link : LinkId) :
    Still s (refuse s reply link).1 :=
  (still_updateOutbox s link Outbox.voice_release).trans (still_of_links rfl)

/-- A request begins. -/
theorem starting_moves (now : Instant) (call : Call) (timeout : Duration) {link : LinkId}
    (hwriter : s.writer = some link) :
    CallMoves s link call.word (CallPoint.step now (.starting call timeout) s) := by
  simp only [step, hwriter]
  have hregister : Still s { s.updateOutbox link Outbox.retain with
      nextId := s.nextId + 1
      pending := (s.pending.register now s.nextId call.method timeout).1 } :=
    (still_updateOutbox s link Outbox.voice_retain).trans (still_of_links rfl)
  generalize { s.updateOutbox link Outbox.retain with
      nextId := s.nextId + 1
      pending := (s.pending.register now s.nextId call.method timeout).1 } = m at hregister
  have hmoves := SendPoint.begin_moves m link (.request s.nextId call)
  generalize SendPoint.begin m link (.request s.nextId call) = stepped at hmoves
  cases hmoves with
  | sent m' puts =>
    exact .sent m' _ (hregister.trans_tells (puts.tells (utterance?_request _ call)))
  | refused m' still closed =>
    refine .refused _ (hregister.trans (still.trans (still_refuse m' _ link))) ?_
    rw [← hregister.voice]
    exact closed
  | waits m' send still isOpen link_eq item_eq =>
    refine .waits m' _ send (hregister.trans still) link_eq ?_
    rw [item_eq]
    exact utterance?_request _ call
  | blocks => exact .blocks m hregister

/-- A request that waits for room goes on. -/
theorem sending_moves (now : Instant) (reply : PendingReply) {send : SendPoint}
    (hword : send.item.utterance? = some word) (s : Session) :
    CallMoves s send.link word (CallPoint.step now (.sending reply send) s) := by
  simp only [step]
  have hmoves := send.step_moves s
  generalize send.step s = stepped at hmoves
  cases hmoves with
  | sent m puts => exact .sent m reply (puts.tells hword)
  | refused m still closed =>
    exact .refused _ (still.trans (still_refuse m reply send.link)) closed
  | waits m send' still isOpen link_eq item_eq =>
    exact .waits m reply send' still link_eq (item_eq ▸ hword)
  | blocks => exact .blocks s (.refl s)

/-- A request that waits for its reply says nothing more. -/
theorem still_waiting (now : Instant) (reply : PendingReply) (link : LinkId) (s : Session) :
    Still s (CallPoint.step now (.waiting reply link) s).1 := by
  simp only [step]
  split
  · exact (still_updateOutbox s link Outbox.voice_release).trans (still_of_links rfl)
  · exact .refl s

theorem still_cancel (point : CallPoint) (s : Session) : Still s (point.cancel s) := by
  cases point with
  | starting call timeout => exact .refl s
  | sending reply send =>
    exact (send.still_cancel s).trans ((still_updateOutbox _ send.link Outbox.voice_release).trans
      (still_of_links rfl))
  | waiting reply link =>
    exact (still_updateOutbox s link Outbox.voice_release).trans (still_of_links rfl)

end CallPoint

/-! ### Readers and writers -/

namespace Session

theorem hush_endReader (s : Session) (id : LinkId) (now : Instant) :
    Hush s (s.endReader id now) := by
  have hclosed : Still s (s.transportClosed id now) := by
    unfold transportClosed
    split
    · split
      · exact still_markCrashed s now
      · exact still_markCrashed s now
      · exact still_markCrashed s now
      · exact still_markCrashed s now
      · exact .refl s
    · exact .refl s
  exact (hclosed.trans (still_updateLink _ id fun link _ => voice_stopReader link)).hush

/-- A reply is not the client's own word. -/
theorem still_sendReply (s : Session) (id : LinkId) (reply : Json) :
    Still s (s.sendReply id reply) := by
  unfold sendReply
  split
  · exact .refl s
  next link hlink =>
    have hsame {outbox : Outbox Outgoing} (h : outbox.voice = link.outbox.voice) :
        Still s (s.updateOutbox id fun _ => outbox) := by
      refine still_updateLink s id fun other hother => ?_
      obtain rfl : link = other := Option.some.inj (hlink.symm.trans hother)
      exact h
    split
    next outbox ticket hoffer =>
      exact (hsame (Outbox.voice_of_offer_waits hoffer).2).trans
        (still_updateLink _ id fun _ _ => rfl)
    next outbox sending hwaits hoffer =>
      cases sending with
      | sent => exact (puts_updateOutbox hlink (Outbox.gets_of_offer hoffer)).still rfl
      | refused =>
        have hclosed := Outbox.closed_of_offer hoffer
        simp only [Outbox.offer, hclosed, Bool.not_false, if_true] at hoffer
        exact hsame (by rw [(Prod.mk.inj hoffer).1])
      | waits ticket => exact absurd rfl (hwaits ticket)

theorem still_dispatch (s : Session) (id : LinkId) (message : Message) :
    Still s (s.dispatch id message) := by
  cases message with
  | response responseId outcome =>
    simp only [dispatch]
    split
    · exact still_of_links rfl
    · exact .refl s
  | request requestId method params => exact still_sendReply s id _
  | notification method params => exact still_of_links rfl

theorem hush_handleItem (s : Session) (id : LinkId) (now : Instant) (item : FrameReader.Item) :
    Hush s (s.handleItem id now item) := by
  cases item with
  | ended => exact hush_endReader s id now
  | failed reason => exact hush_endReader s id now
  | event event =>
    cases event with
    | frame frame =>
      have hactive : Still s { s with active := true } := still_of_links rfl
      simp only [handleItem, handleEvent]
      split
      next message _ => exact (hactive.trans (still_dispatch _ id message)).hush
      next => exact hush_of_links rfl
    | error error =>
      cases error with
      | unexpectedEnd => exact hush_endReader s id now
      | missingLength | invalidLength | oversized | headerTooLong | invalidJson =>
        exact hush_of_links rfl

theorem hush_advanceReader (s : Session) (id : LinkId) (now : Instant)
    (read : Option FrameReader.Item × FrameReader) : Hush s (s.advanceReader id now read) := by
  have hframes : Hush s (s.updateLink id fun link => { link with frames := read.2 }) :=
    hush_updateLink s id fun _ _ => .inl rfl
  unfold advanceReader
  split
  next item _ => exact hframes.trans (hush_handleItem _ id now item)
  next => exact hframes

theorem hush_hear (s : Session) (id : LinkId) (now : Instant) (said : SourceRead) :
    Hush s (s.hear id now said) := by
  unfold hear
  split
  · split
    · exact hush_advanceReader s id now _
    · exact .refl s
  · exact .refl s

theorem hush_stepReader (s : Session) (id : LinkId) (now : Instant) :
    Hush s (s.stepReader id now).1 := by
  unfold stepReader
  split
  next => exact .refl s
  next link hlink =>
    split
    next => exact .refl s
    next reply ticket _ =>
      split
      next => exact .refl s
      next outbox sending hwaits hclaim =>
        have hsent : Still s (s.updateOutbox id fun _ => outbox) := by
          cases sending with
          | sent => exact (puts_updateOutbox hlink (Outbox.gets_of_claim hclaim)).still rfl
          | refused =>
            obtain ⟨-, rfl⟩ := Outbox.closed_of_claim hclaim
            refine still_updateLink s id fun other hother => ?_
            obtain rfl : link = other := Option.some.inj (hlink.symm.trans hother)
            rfl
          | waits ticket => exact absurd rfl (hwaits ticket)
        exact hsent.hush.trans (hush_updateLink _ id fun _ _ => .inl rfl)
    next =>
      split
      · exact .refl s
      · exact hush_advanceReader s id now _

end Session

/-! ### Writers -/

/-- The word that the writer of a link takes with its next step. -/
def Link.nextWord? (link : Link) : Option Utterance :=
  match link.writer with
  | .taking => link.outbox.items.head?.bind Outgoing.utterance?
  | _ => none

theorem Outgoing.message?_of_utterance {item : Outgoing} {word : Utterance}
    (h : item.utterance? = some word) : item.message? ≠ none := by
  cases item with
  | request | notice => rintro ⟨⟩
  | reply | finish => cases h

/-- A step of a writer takes the first word from its outbox, or nothing, or gives it up. -/
theorem Link.voice_stepWriter (link : Link) :
    (∃ word rest, link.nextWord? = some word ∧ link.outbox.voice.words = word :: rest ∧
        link.stepWriter.1.outbox.voice = ⟨link.outbox.isOpen, rest⟩) ∨
      link.nextWord? = none ∧ (link.stepWriter.1.outbox.voice = link.outbox.voice ∨
        link.stepWriter.1.outbox.voice = .gone) := by
  unfold Link.nextWord? Link.stepWriter Outbox.take
  cases link.writer with
  | writing rest => exact .inr ⟨rfl, .inl rfl⟩
  | done => exact .inr ⟨rfl, .inl rfl⟩
  | taking =>
    cases hitems : link.outbox.items with
    | nil =>
      refine .inr ⟨rfl, ?_⟩
      dsimp only
      split
      · exact .inr rfl
      · exact .inl rfl
    | cons first others =>
      have hvoice : ({ link.outbox with items := others } : Outbox Outgoing).grant.voice =
          ⟨link.outbox.isOpen, others.filterMap Outgoing.utterance?⟩ := Outbox.voice_grant _
      cases hword : first.utterance? with
      | some word =>
        refine .inl ⟨word, others.filterMap Outgoing.utterance?, hword, ?_, ?_⟩
        · simp [Outbox.voice, hitems, hword]
        · cases hmessage : first.message? with
          | none => exact absurd hmessage (Outgoing.message?_of_utterance hword)
          | some message => simpa [hmessage] using hvoice
      | none =>
        refine .inr ⟨hword, ?_⟩
        cases hmessage : first.message? with
        | none => exact .inr (by simp [hmessage, Link.stopWriter])
        | some message =>
          refine .inl ?_
          simpa [hmessage, Outbox.voice, hitems, hword] using hvoice

namespace Session

/-- The word that is taken from the outbox of a link to be written. -/
def taken? (s : Session) (k : LinkId) : SessionEvent → Option Utterance
  | .write id => if id = k then (s.links[k]?).bind Link.nextWord? else none
  | _ => none

/-- What an event that is no step of an operation does to a voice: the writer takes the first word,
    or nothing is said. -/
inductive Hears (s s' : Session) (k : LinkId) : Option Utterance → Prop where
  | takes (word : Utterance) (rest : List Utterance) (words : (s.voice k).words = word :: rest)
      (voice : s'.voice k = ⟨(s.voice k).isOpen, rest⟩) : Hears s s' k (some word)
  | stays (voice : s'.voice k = s.voice k) : Hears s s' k none
  | ends (voice : s'.voice k = .gone) : Hears s s' k none

variable {s s' : Session} {k : LinkId}

theorem Hush.hears (h : Hush s s') (hlength : s'.links.length = s.links.length) :
    Hears s s' k none := by
  rcases h.voice k with hsame | hgone | ⟨hnew, -⟩
  · exact .stays hsame
  · exact .ends hgone
  · refine .stays ?_
    have hnone : s.links[k]? = none := List.getElem?_eq_none_iff.mpr hnew
    have hnone' : s'.links[k]? = none := List.getElem?_eq_none_iff.mpr (hlength ▸ hnew)
    simp only [Session.voice, hnone, hnone']

theorem hears_stepWriter (s : Session) (id k : LinkId) :
    Hears s (s.stepWriter id).1 k (s.taken? k (.write id)) := by
  unfold stepWriter
  by_cases hk : id = k
  · subst hk
    have htaken : s.taken? id (.write id) = (s.links[id]?).bind Link.nextWord? := if_pos rfl
    rw [htaken]
    split
    next hlink =>
      rw [hlink]
      exact .stays rfl
    next link hlink =>
      rw [hlink]
      have hvoice : (s.updateLink id fun _ => link.stepWriter.1).voice id =
          link.stepWriter.1.outbox.voice := voice_updateLink_self hlink
      show Hears s (s.updateLink id fun _ => link.stepWriter.1) id link.nextWord?
      rcases link.voice_stepWriter with ⟨word, rest, hword, hwords, hafter⟩ | ⟨hword, hsame | hgone⟩
      · rw [hword]
        refine .takes word rest (by rw [voice_eq hlink]; exact hwords) ?_
        rw [hvoice, hafter, voice_eq hlink]
        rfl
      · rw [hword]
        exact .stays (by rw [hvoice, hsame, voice_eq hlink])
      · rw [hword]
        exact .ends (hvoice.trans hgone)
  · have htaken : s.taken? k (.write id) = none := if_neg hk
    rw [htaken]
    split
    · exact .stays rfl
    · exact .stays (voice_updateLink_of_ne _ (Ne.symm hk))

/-- An event that is no step of an operation. -/
theorem hears_undergo (now : Instant) (event : SessionEvent) (s : Session) (k : LinkId) :
    Hears s (s.undergo now event) k (s.taken? k event) := by
  have hlength := (drift_undergo now event s).length
  have hhush (h : Hush s (s.undergo now event)) : Hears s (s.undergo now event) k none :=
    h.hears hlength
  cases event with
  | write id => exact hears_stepWriter s id k
  | hear id said => exact hhush (hush_hear s id now said)
  | read id => exact hhush (hush_stepReader s id now)
  | written id count =>
    refine hhush (hush_updateLink s id fun link _ => .inl ?_)
    unfold Link.written
    split <;> rfl
  | writeFails id => exact hhush (hush_updateLink s id fun _ _ => .inr rfl)
  | processEnds id => exact hhush (hush_updateLink s id fun _ _ => .inl rfl)
  | launched result =>
    refine hhush ?_
    simp only [undergo, SessionRun.next]
    split
    · exact hush_of_links rfl
    · exact .refl s
  | «begin» | step | wait => exact hhush (.refl s)

end Session
end SymbolSearch
