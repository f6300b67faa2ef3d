import Mathlib.Logic.Function.Basic
import Mathlib.Logic.Relation
import SymbolSearch.Proofs.Session.Course

/-!
# Mail

Whatever a client says goes through the outbox of a link, and waits for room there if it has to.
This file says once what sending and asking do to the outboxes of a session.

* `Mailbox` — an outbox without the number of its senders, with the writer and the reader of its
  link.
* `Post` — all mailboxes of a session, with the item for which one sender waits for room.
* `MailMove` — what a sender does: its item gets in, waits, gets in later, or is given up.
* `PostMove` — besides, a link is given up, or a new one is made.
* `Mails` and `NoticePoint.Notifies` — what a step of a question or a notification comes to;
  `QueryPoint.mail_step` and `NoticePoint.mail_step` say that it is made of such moves.
-/

namespace SymbolSearch

/-- An outbox without the number of its senders. -/
def Outbox.bare {α : Type} (outbox : Outbox α) : Outbox α := { outbox with senders := 0 }

/-- What a client has to say on a link, the writer that says it, and the reader that hears the
    server. -/
structure Mailbox where
  outbox : Outbox Outgoing
  writer : WriterPoint
  reader : ReaderPoint

namespace Mailbox

/-- The mailbox of a link that does not exist. -/
def gone : Mailbox := ⟨{ isOpen := false, senders := 0 }, .done, .done⟩

/-- The mailbox of a new link. -/
def fresh : Mailbox := ⟨{ senders := 0 }, .taking, .reading⟩

end Mailbox

/-- The mailbox of a link. -/
def Link.mailbox (link : Link) : Mailbox := ⟨link.outbox.bare, link.writer, link.reader⟩

/-- The mailbox of a link of a session. -/
def Session.mailbox (s : Session) (k : LinkId) : Mailbox :=
  ((s.links[k]?).map Link.mailbox).getD .gone

/-- The mailboxes of a session, and the item for which one sender waits for room. -/
structure Post where
  /-- The number of links that were made. -/
  count : Nat
  box : LinkId → Mailbox
  own : Option SendPoint

/-- The mailboxes of a session, for one sender. -/
def Session.post (s : Session) (own : Option SendPoint) : Post :=
  ⟨s.links.length, s.mailbox, own⟩

/-- The post with another outbox in one place. -/
def Post.refill (post : Post) (k : LinkId) (outbox : Outbox Outgoing) (own : Option SendPoint) :
    Post :=
  { post with box := Function.update post.box k { post.box k with outbox }, own }

/-- What a sender can do. It has no items but those that `may` allows. -/
inductive MailMove (may : LinkId → Outgoing → Prop) : Post → Post → Prop where
  | puts (post : Post) (k : LinkId) (item : Outgoing) (outbox : Outbox Outgoing) (hmay : may k item)
      (free : post.own = none) (offer : (post.box k).outbox.offer item = (outbox, .sent)) :
      MailMove may post (post.refill k outbox none)
  | joins (post : Post) (k : LinkId) (item : Outgoing) (outbox : Outbox Outgoing) (ticket : Ticket)
      (hmay : may k item) (free : post.own = none)
      (offer : (post.box k).outbox.offer item = (outbox, .waits ticket)) :
      MailMove may post (post.refill k outbox (some ⟨k, ticket, item⟩))
  | claims (post : Post) (send : SendPoint) (outbox : Outbox Outgoing)
      (hmay : may send.link send.item) (waits : post.own = some send)
      (claim : (post.box send.link).outbox.claim send.ticket send.item = (outbox, .sent)) :
      MailMove may post (post.refill send.link outbox none)
  | loses (post : Post) (send : SendPoint) (waits : post.own = some send)
      (closed : (post.box send.link).outbox.isOpen = false) :
      MailMove may post { post with own := none }
  | abandons (post : Post) (send : SendPoint) (waits : post.own = some send) :
      MailMove may post
        (post.refill send.link ((post.box send.link).outbox.abandon send.ticket) none)

/-- Any number of moves of a sender. -/
abbrev MailMoves (may : LinkId → Outgoing → Prop) := Relation.ReflTransGen (MailMove may)

/-- What can happen to the mailboxes of a session by its operations. -/
inductive PostMove (may : LinkId → Outgoing → Prop) : Post → Post → Prop where
  | mails {post post' : Post} (move : MailMove may post post') : PostMove may post post'
  | closes (post : Post) (k : LinkId) (mailbox : Mailbox)
      (closed : mailbox.outbox.isOpen = false) (empty : mailbox.outbox.items = []) :
      PostMove may post { post with box := Function.update post.box k mailbox }
  | opens (post : Post) (gone : post.box post.count = .gone) :
      PostMove may post
        { post with count := post.count + 1, box := Function.update post.box post.count .fresh }

/-- Any number of such moves. -/
abbrev PostMoves (may : LinkId → Outgoing → Prop) := Relation.ReflTransGen (PostMove may)

/-- The items that wait to be written, as long as more can be put behind them. -/
def Mailbox.line (mailbox : Mailbox) : Option (List Outgoing) :=
  if mailbox.outbox.isOpen then some mailbox.outbox.items else none

namespace Post

/-- No item comes or goes. -/
structure Still (post post' : Post) : Prop where
  count : post'.count = post.count
  line : ∀ k, (post'.box k).line = (post.box k).line

/-- An item gets in behind all others of its link. -/
structure Puts (k : LinkId) (item : Outgoing) (post post' : Post) : Prop where
  count : post'.count = post.count
  self : ∃ items, (post.box k).line = some items ∧ (post'.box k).line = some (items ++ [item])
  other : ∀ j, j ≠ k → (post'.box j).line = (post.box j).line

end Post

section Moves

variable {may : LinkId → Outgoing → Prop} {post post' : Post}

theorem MailMoves.postMoves (h : MailMoves may post post') : PostMoves may post post' :=
  Relation.ReflTransGen.mono (fun _ _ => PostMove.mails) _ _ h

end Moves

/-! ### Outboxes without their senders -/

namespace Outbox

variable {α : Type} {outbox outbox' : Outbox α} {item : α} {ticket : Ticket} {sending : Sending}

@[simp]
theorem bare_retain (outbox : Outbox α) : outbox.retain.bare = outbox.bare := rfl

@[simp]
theorem bare_release (outbox : Outbox α) : outbox.release.bare = outbox.bare := rfl

theorem offer_bare (h : outbox.offer item = (outbox', sending)) :
    outbox.bare.offer item = (outbox'.bare, sending) := by
  unfold offer at h ⊢
  split at h
  next hopen =>
    obtain ⟨rfl, rfl⟩ := Prod.mk.inj h
    exact if_pos hopen
  next hopen =>
    rw [if_neg (by exact hopen)]
    split at h
    next hroom =>
      obtain ⟨rfl, rfl⟩ := Prod.mk.inj h
      exact if_pos hroom
    next hroom =>
      obtain ⟨rfl, rfl⟩ := Prod.mk.inj h
      exact if_neg hroom

theorem claim_bare (h : outbox.claim ticket item = (outbox', sending)) :
    outbox.bare.claim ticket item = (outbox'.bare, sending) := by
  unfold claim at h ⊢
  split at h
  next hopen =>
    obtain ⟨rfl, rfl⟩ := Prod.mk.inj h
    exact if_pos hopen
  next hopen =>
    rw [if_neg (by exact hopen)]
    split at h
    next hgranted =>
      obtain ⟨rfl, rfl⟩ := Prod.mk.inj h
      exact if_pos hgranted
    next hgranted =>
      obtain ⟨rfl, rfl⟩ := Prod.mk.inj h
      exact if_neg hgranted

theorem abandon_bare (outbox : Outbox α) (ticket : Ticket) :
    (outbox.abandon ticket).bare = outbox.bare.abandon ticket := by
  unfold abandon grant bare
  dsimp only
  split
  · split <;> rfl
  · rfl

theorem isOpen_of_refused (h : outbox.offer item = (outbox', .refused)) :
    outbox.isOpen = false ∧ outbox' = outbox := by
  unfold offer at h
  split at h
  next hopen =>
    obtain ⟨rfl, -⟩ := Prod.mk.inj h
    exact ⟨by simpa using hopen, rfl⟩
  next =>
    split at h
    · cases h
    · cases h

theorem isOpen_of_claim_refused (h : outbox.claim ticket item = (outbox', .refused)) :
    outbox.isOpen = false ∧ outbox' = outbox := by
  unfold claim at h
  split at h
  next hopen =>
    obtain ⟨rfl, -⟩ := Prod.mk.inj h
    exact ⟨by simpa using hopen, rfl⟩
  next =>
    split at h
    · cases h
    · cases h

theorem items_of_offer_sent (h : outbox.offer item = (outbox', .sent)) :
    outbox.isOpen = true ∧ outbox'.isOpen = true ∧ outbox'.items = outbox.items ++ [item] := by
  unfold offer at h
  split at h
  next => cases h
  next hopen =>
    have hopen : outbox.isOpen = true := by simpa using hopen
    split at h
    · obtain ⟨rfl, -⟩ := Prod.mk.inj h
      exact ⟨hopen, hopen, rfl⟩
    · cases h

theorem items_of_claim_sent (h : outbox.claim ticket item = (outbox', .sent)) :
    outbox.isOpen = true ∧ outbox'.isOpen = true ∧ outbox'.items = outbox.items ++ [item] := by
  unfold claim at h
  split at h
  next => cases h
  next hopen =>
    have hopen : outbox.isOpen = true := by simpa using hopen
    split at h
    · obtain ⟨rfl, -⟩ := Prod.mk.inj h
      exact ⟨hopen, hopen, rfl⟩
    · cases h

theorem items_of_offer_waits (h : outbox.offer item = (outbox', .waits ticket)) :
    outbox'.isOpen = outbox.isOpen ∧ outbox'.items = outbox.items := by
  unfold offer at h
  split at h
  next => cases h
  next =>
    split at h
    · cases h
    · obtain ⟨rfl, -⟩ := Prod.mk.inj h
      exact ⟨rfl, rfl⟩

theorem items_abandon (outbox : Outbox α) (ticket : Ticket) :
    (outbox.abandon ticket).isOpen = outbox.isOpen ∧
      (outbox.abandon ticket).items = outbox.items := by
  unfold abandon grant
  split
  · split <;> exact ⟨rfl, rfl⟩
  · exact ⟨rfl, rfl⟩

end Outbox

/-! ### Items in line -/

namespace Post

variable {post post' : Post} {k : LinkId} {item : Outgoing} {outbox : Outbox Outgoing}
  {own : Option SendPoint}

theorem Still.refl (post : Post) : Still post post := ⟨rfl, fun _ => rfl⟩

@[simp]
theorem box_refill_self (post : Post) (k : LinkId) (outbox : Outbox Outgoing)
    (own : Option SendPoint) :
    (post.refill k outbox own).box k = { post.box k with outbox } := Function.update_self ..

theorem box_refill_of_ne {j : LinkId} (hj : j ≠ k) :
    (post.refill k outbox own).box j = post.box j := Function.update_of_ne hj ..

theorem still_refill (h : outbox.isOpen = (post.box k).outbox.isOpen ∧
    outbox.items = (post.box k).outbox.items) : Still post (post.refill k outbox own) := by
  refine ⟨rfl, fun j => ?_⟩
  by_cases hj : j = k
  · subst hj
    rw [box_refill_self, Mailbox.line, h.1, h.2]
    rfl
  · rw [box_refill_of_ne hj]

theorem puts_refill (h : (post.box k).outbox.isOpen = true ∧ outbox.isOpen = true ∧
    outbox.items = (post.box k).outbox.items ++ [item]) :
    Puts k item post (post.refill k outbox own) := by
  obtain ⟨hopen, hopen', hitems⟩ := h
  refine ⟨rfl, ⟨(post.box k).outbox.items, if_pos hopen, ?_⟩, fun j hj => ?_⟩
  · rw [box_refill_self, Mailbox.line, if_pos hopen', hitems]
  · rw [box_refill_of_ne hj]

end Post

/-- A move of a sender puts one item into a line, or none. -/
theorem MailMove.puts_or_still {may : LinkId → Outgoing → Prop} {post post' : Post}
    (h : MailMove may post post') :
    Post.Still post post' ∨ ∃ k item, may k item ∧ Post.Puts k item post post' := by
  cases h with
  | puts k item outbox hmay free offer =>
    exact .inr ⟨k, item, hmay, Post.puts_refill (Outbox.items_of_offer_sent offer)⟩
  | joins k item outbox ticket hmay free offer =>
    exact .inl (Post.still_refill (Outbox.items_of_offer_waits offer))
  | claims send outbox hmay waits claim =>
    exact .inr ⟨send.link, send.item, hmay, Post.puts_refill (Outbox.items_of_claim_sent claim)⟩
  | loses send waits closed => exact .inl ⟨rfl, fun _ => rfl⟩
  | abandons send waits => exact .inl (Post.still_refill (Outbox.items_abandon _ _))

/-! ### The mailboxes of a session -/

namespace Session

variable {s s' : Session} {k id : LinkId} {link : Link} {own : Option SendPoint}

theorem mailbox_eq (h : s.links[k]? = some link) : s.mailbox k = link.mailbox := by
  rw [mailbox, h]
  rfl

theorem mailbox_of_none (h : s.links[k]? = none) : s.mailbox k = .gone := by
  rw [mailbox, h]
  rfl

theorem post_of_links (h : s'.links = s.links) (own : Option SendPoint) :
    s'.post own = s.post own := by
  simp only [post, show s'.mailbox = s.mailbox from funext fun k => by simp only [mailbox, h], h]

theorem mailbox_updateLink_of_ne (change : Link → Link) (h : k ≠ id) :
    (s.updateLink id change).mailbox k = s.mailbox k := by
  simp [mailbox, updateLink, h.symm]

theorem mailbox_updateLink_self {change : Link → Link} (h : s.links[id]? = some link) :
    (s.updateLink id change).mailbox id = (change link).mailbox :=
  mailbox_eq (by simp [updateLink, h])

theorem count_updateLink (s : Session) (id : LinkId) (change : Link → Link) :
    (s.updateLink id change).links.length = s.links.length := List.length_modify _ _ _

/-- A link that does not exist cannot be changed. -/
theorem updateLink_eq_self {change : Link → Link} (h : s.links[id]? = none) :
    s.updateLink id change = s := by
  simp [updateLink, List.modify_eq_self (List.getElem?_eq_none_iff.mp h)]

/-- A change of one link. -/
theorem post_updateLink {change : Link → Link} (h : s.links[id]? = some link)
    (own : Option SendPoint) :
    (s.updateLink id change).post own =
      { s.post own with box := Function.update s.mailbox id (change link).mailbox } := by
  have hbox : (s.updateLink id change).mailbox =
      Function.update s.mailbox id (change link).mailbox := by
    funext k
    by_cases hk : k = id
    · subst hk
      rw [Function.update_self, mailbox_updateLink_self h]
    · rw [Function.update_of_ne hk, mailbox_updateLink_of_ne change hk]
  simp only [post, hbox, count_updateLink]

/-- A change of one link that leaves its mailbox alone. -/
theorem post_updateLink_same (change : Link → Link)
    (h : ∀ link, s.links[id]? = some link → (change link).mailbox = link.mailbox)
    (own : Option SendPoint) : (s.updateLink id change).post own = s.post own := by
  cases hlink : s.links[id]? with
  | none => rw [updateLink_eq_self hlink]
  | some link =>
    rw [post_updateLink hlink, h link hlink, ← mailbox_eq hlink, Function.update_eq_self]
    rfl

/-- A change of one outbox. -/
theorem post_updateOutbox (change : Outbox Outgoing → Outbox Outgoing)
    (h : s.links[id]? = some link) (own own' : Option SendPoint) :
    (s.updateOutbox id change).post own' =
      (s.post own).refill id (change link.outbox).bare own' := by
  rw [updateOutbox, post_updateLink h]
  show _ = Post.mk _ (Function.update s.mailbox id { s.mailbox id with outbox := _ }) own'
  rw [mailbox_eq h]
  rfl

theorem post_updateOutbox_same (change : Outbox Outgoing → Outbox Outgoing)
    (h : ∀ outbox, (change outbox).bare = outbox.bare) (own : Option SendPoint) :
    (s.updateOutbox id change).post own = s.post own := by
  refine post_updateLink_same _ (fun link _ => ?_) own
  rw [Link.mailbox, Link.mailbox, h]

@[simp]
theorem post_retain (s : Session) (id : LinkId) (own : Option SendPoint) :
    (s.updateOutbox id Outbox.retain).post own = s.post own :=
  post_updateOutbox_same Outbox.retain (fun _ => rfl) own

@[simp]
theorem post_release (s : Session) (id : LinkId) (own : Option SendPoint) :
    (s.updateOutbox id Outbox.release).post own = s.post own :=
  post_updateOutbox_same Outbox.release (fun _ => rfl) own

@[simp]
theorem post_releaseWriter (s : Session) (own : Option SendPoint) :
    s.releaseWriter.post own = s.post own := by
  unfold releaseWriter
  split
  next id _ => exact (post_of_links rfl own).trans (post_release s id own)
  next => rfl

@[simp]
theorem post_markCrashed (s : Session) (now : Instant) (own : Option SendPoint) :
    (s.markCrashed now).post own = s.post own :=
  (post_of_links rfl own).trans (post_releaseWriter s own)

variable {may : LinkId → Outgoing → Prop}

/-- A link is given up. -/
theorem post_drop (s : Session) (id : LinkId) (own : Option SendPoint) :
    PostMoves may (s.post own) ((s.updateLink id Link.drop).post own) := by
  cases hlink : s.links[id]? with
  | none => rw [updateLink_eq_self hlink]
  | some link =>
    rw [post_updateLink hlink]
    exact .single (.closes _ id _ rfl rfl)

theorem post_dropConnection (s : Session) (own : Option SendPoint) :
    PostMoves may (s.post own) (s.dropConnection.post own) := by
  unfold dropConnection
  split
  next id _ => exact post_drop s id own
  next => exact .refl

theorem post_addLink (s : Session) (process : ServerProcess) (own : Option SendPoint) :
    PostMoves may (s.post own) ((s.addLink process).post own) := by
  have hgone : s.mailbox s.links.length = .gone := mailbox_of_none (by simp)
  have hbox : (s.addLink process).mailbox = Function.update s.mailbox s.links.length .fresh := by
    funext k
    rcases Nat.lt_trichotomy k s.links.length with hlt | rfl | hgt
    · rw [Function.update_of_ne (Nat.ne_of_lt hlt)]
      simp only [mailbox, addLink, List.getElem?_append_left hlt]
    · rw [Function.update_self]
      have hnew : (s.addLink process).links[s.links.length]? = some { process } := by
        simp [addLink]
      exact mailbox_eq hnew
    · rw [Function.update_of_ne (Nat.ne_of_gt hgt), mailbox_of_none, mailbox_of_none]
      · rw [List.getElem?_eq_none_iff]
        omega
      · rw [List.getElem?_eq_none_iff]
        simp only [addLink, List.length_append, List.length_singleton]
        omega
  have hpost : (s.addLink process).post own =
      { s.post own with
        count := (s.post own).count + 1
        box := Function.update (s.post own).box (s.post own).count .fresh } := by
    rw [post, hbox]
    simp [post, addLink]
  rw [hpost]
  exact .single (.opens _ hgone)

end Session

open Session

/-! ### Sending -/

/-- The item that is left to be sent after a step. -/
def Progress.unsent {π ρ : Type} (before : Option SendPoint) (send? : π → Option SendPoint) :
    Progress π ρ → Option SendPoint
  | .blocked => before
  | .moved point => send? point
  | .finished _ => none

/-- What a step of sending an item can do. -/
inductive Mailed (may : LinkId → Outgoing → Prop) (post : Post) (k : LinkId) (item : Outgoing) :
    Stepped Session SendPoint Bool → Prop where
  | sent (m : Session) (moves : MailMoves may post (m.post none))
      (puts : Post.Puts k item post (m.post none)) : Mailed may post k item (m, .finished true)
  | refused (m : Session) (moves : MailMoves may post (m.post none))
      (still : Post.Still post (m.post none)) : Mailed may post k item (m, .finished false)
  | waits (m : Session) (send : SendPoint) (moves : MailMoves may post (m.post (some send)))
      (still : Post.Still post (m.post none)) (link_eq : send.link = k) (item_eq : send.item = item) :
      Mailed may post k item (m, .moved send)
  | blocks (m : Session) (same : m.post post.own = post) : Mailed may post k item (m, .blocked)

namespace SendPoint

variable {may : LinkId → Outgoing → Prop} {link : LinkId} {item : Outgoing}

theorem mailed_begin (s : Session) (hmay : may link item) :
    Mailed may (s.post none) link item (SendPoint.begin s link item) := by
  unfold SendPoint.begin
  split
  next => exact .refused s .refl (.refl _)
  next found hlink =>
    have hbox : (s.post none).box link = found.mailbox := mailbox_eq hlink
    split
    next outbox hoffer =>
      have hoffer' : ((s.post none).box link).outbox.offer item = (outbox.bare, .sent) := by
        rw [hbox]
        exact Outbox.offer_bare hoffer
      have hpost := post_updateOutbox (fun _ => outbox) hlink none none
      refine .sent _ ?_ ?_
      · rw [hpost]
        exact .single (.puts _ link item _ hmay rfl hoffer')
      · rw [hpost]
        exact Post.puts_refill (Outbox.items_of_offer_sent hoffer')
    next => exact .refused s .refl (.refl _)
    next outbox ticket hoffer =>
      have hoffer' : ((s.post none).box link).outbox.offer item = (outbox.bare, .waits ticket) := by
        rw [hbox]
        exact Outbox.offer_bare hoffer
      have hpost := post_updateOutbox (fun _ => outbox.retain) hlink none
      refine .waits _ _ ?_ ?_ rfl rfl
      · rw [hpost]
        exact .single (.joins _ link item _ ticket hmay rfl hoffer')
      · rw [hpost]
        exact Post.still_refill (Outbox.items_of_offer_waits hoffer')

theorem mailed_step (point : SendPoint) (s : Session) (hmay : may point.link point.item) :
    Mailed may (s.post (some point)) point.link point.item (point.step s) := by
  unfold SendPoint.step
  split
  next hlink =>
    have hclosed : ((s.post (some point)).box point.link).outbox.isOpen = false := by
      show (s.mailbox point.link).outbox.isOpen = false
      rw [mailbox_of_none hlink]
      rfl
    exact .refused s (.single (.loses _ point rfl hclosed)) ⟨rfl, fun _ => rfl⟩
  next found hlink =>
    have hbox : (s.post (some point)).box point.link = found.mailbox := mailbox_eq hlink
    split
    next outbox hclaim =>
      have hclaim' : ((s.post (some point)).box point.link).outbox.claim point.ticket point.item =
          (outbox.bare, .sent) := by
        rw [hbox]
        exact Outbox.claim_bare hclaim
      have hpost := post_updateOutbox (fun _ => outbox.release) hlink (some point) none
      refine .sent _ ?_ ?_
      · rw [hpost]
        exact .single (.claims _ point _ hmay rfl hclaim')
      · rw [hpost]
        exact Post.puts_refill (Outbox.items_of_claim_sent hclaim')
    next outbox hclaim =>
      obtain ⟨hclosed, rfl⟩ := Outbox.isOpen_of_claim_refused hclaim
      have hsame : (s.updateOutbox point.link fun _ => found.outbox.release).post none =
          s.post none := by
        refine post_updateLink_same _ (fun other hother => ?_) none
        obtain rfl : found = other := Option.some.inj (hlink.symm.trans hother)
        rfl
      refine .refused _ ?_ ?_
      · rw [hsame]
        exact .single (.loses _ point rfl (by rw [hbox]; exact hclosed))
      · rw [hsame]
        exact ⟨rfl, fun _ => rfl⟩
    next => exact .blocks s rfl

theorem mail_cancel (point : SendPoint) (s : Session) :
    MailMoves may (s.post (some point)) ((point.cancel s).post none) := by
  unfold SendPoint.cancel
  cases hlink : s.links[point.link]? with
  | none =>
    have hclosed : ((s.post (some point)).box point.link).outbox.isOpen = false := by
      show (s.mailbox point.link).outbox.isOpen = false
      rw [mailbox_of_none hlink]
      rfl
    rw [updateOutbox, updateLink_eq_self hlink]
    exact .single (.loses _ point rfl hclosed)
  | some found =>
    have habandon : ((found.outbox.abandon point.ticket).release).bare =
        ((s.post (some point)).box point.link).outbox.abandon point.ticket := by
      have hbox : (s.post (some point)).box point.link = found.mailbox := mailbox_eq hlink
      rw [hbox, Outbox.bare_release, Outbox.abandon_bare]
      rfl
    rw [post_updateOutbox _ hlink (some point), habandon]
    exact .single (.abandons _ point rfl)

end SendPoint

/-! ### Asking -/

/-- What a step of asking can do: an item gets in or waits for room, and asking ends without one. -/
inductive Mails {π ρ : Type} (may : LinkId → Outgoing → Prop) (post : Post)
    (send? : π → Option SendPoint) : Stepped Session π ρ → Prop where
  | puts (m : Session) (point : π) (k : LinkId) (item : Outgoing) (hmay : may k item)
      (moves : MailMoves may post (m.post none)) (puts : Post.Puts k item post (m.post none))
      (free : send? point = none) : Mails may post send? (m, .moved point)
  | waits (m : Session) (point : π) (send : SendPoint) (hmay : may send.link send.item)
      (moves : MailMoves may post (m.post (some send))) (still : Post.Still post (m.post none))
      (send_eq : send? point = some send) : Mails may post send? (m, .moved point)
  | ends (m : Session) (result : ρ) (moves : MailMoves may post (m.post none))
      (still : Post.Still post (m.post none)) : Mails may post send? (m, .finished result)
  | blocks (m : Session) (same : m.post post.own = post) : Mails may post send? (m, .blocked)

theorem Mails.moves {π ρ : Type} {may : LinkId → Outgoing → Prop} {post : Post}
    {send? : π → Option SendPoint} {stepped : Stepped Session π ρ}
    (h : Mails may post send? stepped) :
    MailMoves may post (stepped.1.post (stepped.2.unsent post.own send?)) := by
  cases h with
  | puts m point k item hmay moves puts free =>
    show MailMoves may post (m.post (send? point))
    rw [free]
    exact moves
  | waits m point send hmay moves still send_eq =>
    show MailMoves may post (m.post (send? point))
    rw [send_eq]
    exact moves
  | ends m result moves still => exact moves
  | blocks m same =>
    show MailMoves may post (m.post post.own)
    rw [same]

namespace CallPoint

/-- The request that waits for room. -/
def send? : CallPoint → Option SendPoint
  | .sending _ send => some send
  | _ => none

/-- The request that is not made yet. -/
def call? : CallPoint → Option Call
  | .starting call _ => some call
  | _ => none

variable {may : LinkId → Outgoing → Prop} {s : Session}

theorem mails_refuse {post : Post} {m : Session} (moves : MailMoves may post (m.post none))
    (still : Post.Still post (m.post none)) (reply : PendingReply) (link : LinkId) :
    Mails may post send? (refuse m reply link) := by
  have hsame : (refuse m reply link).1.post none = m.post none :=
    (post_of_links rfl none).trans (post_release m link none)
  refine .ends _ _ ?_ ?_
  · exact hsame.symm ▸ moves
  · exact hsame.symm ▸ still

/-- A step of a request. -/
theorem mails_step (now : Instant) (point : CallPoint) (s : Session)
    (hnew : ∀ call k, point.call? = some call → s.writer = some k →
      may k (.request s.nextId call))
    (hold : ∀ send, point.send? = some send → may send.link send.item) :
    Mails may (s.post point.send?) send? (point.step now s) := by
  have hends (m : Session) (result : Except SessionError Json)
      (hsame : m.post none = s.post none) (hfree : point.send? = none) :
      Mails may (s.post point.send?) send? (m, .finished result) := by
    rw [hfree, ← hsame]
    exact .ends m result .refl (.refl _)
  cases point with
  | starting call timeout =>
    simp only [step]
    cases hwriter : s.writer with
    | none => exact hends s _ rfl rfl
    | some link =>
      dsimp only
      have hregister : ({ s.updateOutbox link Outbox.retain with
          nextId := s.nextId + 1
          pending := (s.pending.register now s.nextId call.method timeout).1 } : Session).post none =
          s.post none := (post_of_links rfl none).trans (post_retain s link none)
      generalize ({ s.updateOutbox link Outbox.retain with
          nextId := s.nextId + 1
          pending := (s.pending.register now s.nextId call.method timeout).1 } : Session) = m
        at hregister
      have hsend := SendPoint.mailed_begin m (hnew call link rfl hwriter)
      rw [hregister] at hsend
      generalize SendPoint.begin m link (.request s.nextId call) = stepped at hsend
      cases hsend with
      | sent m' moves puts =>
        exact .puts m' _ link _ (hnew call link rfl hwriter) moves puts rfl
      | refused m' moves still => exact mails_refuse moves still _ link
      | waits m' send moves still link_eq item_eq =>
        exact .waits m' _ send (link_eq ▸ item_eq ▸ hnew call link rfl hwriter) moves still rfl
      | blocks m' same => exact .blocks m' same
  | sending reply send =>
    have hsend := send.mailed_step s (hold send rfl)
    simp only [step]
    generalize send.step s = stepped at hsend
    cases hsend with
    | sent m moves puts => exact .puts m _ send.link send.item (hold send rfl) moves puts rfl
    | refused m moves still => exact mails_refuse moves still reply send.link
    | waits m send' moves still link_eq item_eq =>
      exact .waits m _ send' (link_eq ▸ item_eq ▸ hold send rfl) moves still rfl
    | blocks m same => exact .blocks m same
  | waiting reply link =>
    simp only [step]
    split
    next pending result _ =>
      exact hends _ result ((post_of_links rfl none).trans (post_release s link none)) rfl
    next => exact .blocks s rfl

theorem mail_step (now : Instant) (point : CallPoint) (s : Session)
    (hnew : ∀ call k, point.call? = some call → s.writer = some k →
      may k (.request s.nextId call))
    (hold : ∀ send, point.send? = some send → may send.link send.item) :
    MailMoves may (s.post point.send?)
      ((point.step now s).1.post ((point.step now s).2.unsent point.send? send?)) :=
  (mails_step now point s hnew hold).moves

theorem mail_cancel (point : CallPoint) (s : Session) :
    MailMoves may (s.post point.send?) ((point.cancel s).post none) := by
  cases point with
  | starting call timeout => exact .refl
  | sending reply send =>
    have hsame : ((CallPoint.sending reply send).cancel s).post none = (send.cancel s).post none :=
      (post_of_links rfl none).trans (post_release _ send.link none)
    rw [hsame]
    exact send.mail_cancel s
  | waiting reply link =>
    have hsame : ((CallPoint.waiting reply link).cancel s).post none = s.post none :=
      (post_of_links rfl none).trans (post_release s link none)
    rw [hsame]
    exact .refl

end CallPoint

namespace QueryPoint

/-- The request that waits for room. -/
def send? : QueryPoint → Option SendPoint
  | .starting _ => none
  | .calling _ call => call.send?

/-- The request that is not made yet. -/
def call? : QueryPoint → Option Call
  | .starting query => some (.query query)
  | .calling _ call => call.call?

variable {may : LinkId → Outgoing → Prop} {s : Session}

theorem mails_afterCall {post : Post} (query : Query)
    {stepped : Stepped Session CallPoint (Except SessionError Json)}
    (h : Mails may post CallPoint.send? stepped) : Mails may post send? (afterCall query stepped) := by
  cases h with
  | puts m call k item hmay moves puts free => exact .puts m _ k item hmay moves puts free
  | waits m call send hmay moves still send_eq => exact .waits m _ send hmay moves still send_eq
  | blocks m same => exact .blocks m same
  | ends m result moves still =>
    simp only [afterCall, finish]
    split
    · exact .ends _ _ moves still
    · split
      · exact .ends _ _ moves still
      · exact .ends _ _ moves still

/-- A step of a question. -/
theorem mails_step (now : Instant) (point : QueryPoint) (s : Session)
    (hnew : ∀ call k, point.call? = some call → s.writer = some k →
      may k (.request s.nextId call))
    (hold : ∀ send, point.send? = some send → may send.link send.item) :
    Mails may (s.post point.send?) send? (point.step now s) := by
  cases point with
  | starting query =>
    simp only [step]
    split
    · exact mails_afterCall query
        (CallPoint.mails_step now (.starting (.query query) s.settings.requestTimeout) s hnew hold)
    · exact .ends _ _ .refl (.refl _)
  | calling query call => exact mails_afterCall query (call.mails_step now s hnew hold)

theorem mail_step (now : Instant) (point : QueryPoint) (s : Session)
    (hnew : ∀ call k, point.call? = some call → s.writer = some k →
      may k (.request s.nextId call))
    (hold : ∀ send, point.send? = some send → may send.link send.item) :
    MailMoves may (s.post point.send?)
      ((point.step now s).1.post ((point.step now s).2.unsent point.send? send?)) :=
  (mails_step now point s hnew hold).moves

theorem mail_cancel (point : QueryPoint) (s : Session) :
    MailMoves may (s.post point.send?) ((point.cancel s).post none) := by
  cases point with
  | starting query => exact .refl
  | calling query call => exact call.mail_cancel s

end QueryPoint

namespace NoticePoint

/-- The notification that waits for room. -/
def send? : NoticePoint → Option SendPoint
  | .starting _ => none
  | .sending send => some send

variable {may : LinkId → Outgoing → Prop}

/-- What a step of a notification can do. -/
inductive Notifies (may : LinkId → Outgoing → Prop) (post : Post) (k : LinkId) (item : Outgoing) :
    Stepped Session NoticePoint (Except SessionError Unit) → Prop where
  | sent (m : Session) (moves : MailMoves may post (m.post none))
      (puts : Post.Puts k item post (m.post none)) :
      Notifies may post k item (m, .finished (.ok ()))
  | refused (m : Session) (error : SessionError) (moves : MailMoves may post (m.post none))
      (still : Post.Still post (m.post none)) :
      Notifies may post k item (m, .finished (.error error))
  | waits (m : Session) (send : SendPoint) (moves : MailMoves may post (m.post (some send)))
      (still : Post.Still post (m.post none)) (link_eq : send.link = k) (item_eq : send.item = item) :
      Notifies may post k item (m, .moved (.sending send))
  | blocks (m : Session) (same : m.post post.own = post) : Notifies may post k item (m, .blocked)

theorem notifies_sending (send : SendPoint) (s : Session) (hmay : may send.link send.item) :
    Notifies may (s.post (some send)) send.link send.item ((NoticePoint.sending send).step s) := by
  have hsend := send.mailed_step s hmay
  simp only [step]
  generalize send.step s = stepped at hsend
  cases hsend with
  | sent m moves puts => exact .sent m moves puts
  | refused m moves still => exact .refused m _ moves still
  | waits m send' moves still link_eq item_eq => exact .waits m send' moves still link_eq item_eq
  | blocks m same => exact .blocks m same

/-- A notification begins: it goes to the link of the writer, if there is one. -/
theorem notifies_starting (notice : Notice) (s : Session)
    (hmay : ∀ k, s.writer = some k → may k (.notice notice)) :
    (∃ k, s.writer = some k ∧
        Notifies may (s.post none) k (.notice notice) ((NoticePoint.starting notice).step s)) ∨
      ∃ error, (NoticePoint.starting notice).step s = (s, .finished (.error error)) := by
  simp only [step]
  split
  next =>
    cases hwriter : s.writer with
    | none => exact .inr ⟨_, rfl⟩
    | some link =>
      refine .inl ⟨link, rfl, ?_⟩
      have hsend := SendPoint.mailed_begin s (hmay link hwriter)
      dsimp only
      generalize SendPoint.begin s link (.notice notice) = stepped at hsend
      cases hsend with
      | sent m moves puts => exact .sent m moves puts
      | refused m moves still => exact .refused m _ moves still
      | waits m send moves still link_eq item_eq => exact .waits m send moves still link_eq item_eq
      | blocks m same => exact .blocks m same
  next => exact .inr ⟨_, rfl⟩

theorem Notifies.moves {post : Post} {k : LinkId} {item : Outgoing}
    {stepped : Stepped Session NoticePoint (Except SessionError Unit)}
    (h : Notifies may post k item stepped) :
    MailMoves may post (stepped.1.post (stepped.2.unsent post.own send?)) := by
  cases h with
  | sent m moves | refused m _ moves | waits m send moves => exact moves
  | blocks m same =>
    show MailMoves may post (m.post post.own)
    rw [same]

theorem mail_step (point : NoticePoint) (s : Session)
    (hnew : ∀ notice k, point = .starting notice → s.writer = some k → may k (.notice notice))
    (hold : ∀ send, point.send? = some send → may send.link send.item) :
    MailMoves may (s.post point.send?)
      ((point.step s).1.post ((point.step s).2.unsent point.send? send?)) := by
  cases point with
  | starting notice =>
    rcases notifies_starting notice s (fun k => hnew notice k rfl) with ⟨k, -, h⟩ | ⟨error, h⟩
    · exact h.moves
    · rw [h]
      exact .refl
  | sending send => exact (notifies_sending send s (hold send rfl)).moves

theorem mail_cancel (point : NoticePoint) (s : Session) :
    MailMoves may (s.post point.send?) ((point.cancel s).post none) := by
  cases point with
  | starting notice => exact .refl
  | sending send => exact send.mail_cancel s

end NoticePoint

end SymbolSearch
