import SymbolSearch.Proofs.Session.Posting

/-!
# What gets into the outboxes

Items come behind all others of their link, and leave from the front. This file compares what was put
into each outbox with what was taken out to be written.

* `Session.said` — what has got into the outbox of a link between two states of a session.
* `Post.Grows` and `PostMoves.grows` — operations only put items behind others, or close outboxes.
* `Session.Follows` — what was written on a link is a beginning of what was said, and the rest is
  still in the outbox as long as it is open; `Session.Follows.grows` and `Session.Follows.undergo`
  keep it so.
-/

namespace SymbolSearch

/-- What has got into a line, if the line goes on. -/
def saidInLine (before after : Option (List Outgoing)) : List Outgoing :=
  (after.getD []).drop (before.getD []).length

/-- What has got into the outbox of a link. -/
def Session.said (s s' : Session) (k : LinkId) : List Outgoing :=
  saidInLine (s.mailbox k).line (s'.mailbox k).line

/-- What operations can do to a line. A line begins only with its link. -/
inductive LineGrows (may : Outgoing → Prop) (born : Prop) :
    Option (List Outgoing) → Option (List Outgoing) → Prop where
  | closes (before : Option (List Outgoing)) : LineGrows may born before none
  | goesOn (items said : List Outgoing) (hmay : ∀ item ∈ said, may item) :
      LineGrows may born (some items) (some (items ++ said))
  | begins (said : List Outgoing) (hborn : born) (hmay : ∀ item ∈ said, may item) :
      LineGrows may born none (some said)

/-- What operations can do to all lines. -/
structure Post.Grows (may : LinkId → Outgoing → Prop) (post post' : Post) : Prop where
  count : post.count ≤ post'.count
  line : ∀ k, LineGrows (may k) (post.count ≤ k ∧ k < post'.count) (post.box k).line
    (post'.box k).line
  unborn : ∀ k, post'.count ≤ k → (post'.box k).line = none
  /-- What is in an outbox when it is closed is lost. -/
  empty : (∀ k, (post.box k).line = none → (post.box k).outbox.items = []) →
    ∀ k, (post'.box k).line = none → (post'.box k).outbox.items = []

/-- What is still in an outbox is what was said and not written yet. -/
structure Mailbox.Follows (spoken written : List Outgoing) (mailbox : Mailbox) : Prop where
  goesOn : ∀ items, mailbox.line = some items → spoken = written ++ items
  empty : mailbox.line = none → mailbox.outbox.items = []
  within : written <+: spoken

/-- This is so on all links, and nothing was said on links that do not exist. -/
structure Session.Follows (spoken written : LinkId → List Outgoing) (s : Session) : Prop where
  mailbox : ∀ k, (s.mailbox k).Follows (spoken k) (written k)
  unborn : ∀ k, s.links.length ≤ k → spoken k = []

section Lines

variable {may : Outgoing → Prop} {born born' : Prop} {before middle after : Option (List Outgoing)}

theorem LineGrows.said_may (h : LineGrows may born before after) :
    ∀ item ∈ saidInLine before after, may item := by
  intro item hitem
  cases h with
  | closes =>
    rw [saidInLine, Option.getD_none, List.drop_nil] at hitem
    cases hitem
  | goesOn items said hmay =>
    refine hmay item ?_
    simpa [saidInLine] using hitem
  | begins said hborn hmay => exact hmay item hitem

/-- A line goes on and on. -/
theorem LineGrows.trans (h : LineGrows may born before middle) (h' : LineGrows may born' middle after)
    (hnew : born' → before = none) :
    LineGrows may (born ∨ born') before after := by
  cases h' with
  | closes => exact .closes before
  | goesOn items said hmay =>
    cases h with
    | goesOn items' said' hmay' =>
      rw [List.append_assoc]
      exact .goesOn items' _ fun item hitem =>
        (List.mem_append.mp hitem).elim (hmay' item) (hmay item)
    | begins _ hborn' hmay' =>
      exact .begins _ (.inl hborn') fun item hitem =>
        (List.mem_append.mp hitem).elim (hmay' item) (hmay item)
  | begins said hborn' hmay =>
    rw [hnew hborn']
    exact .begins said (.inr hborn') hmay

theorem LineGrows.refl (line : Option (List Outgoing)) : LineGrows may born line line := by
  cases line with
  | none => exact .closes none
  | some items =>
    have hsame : LineGrows may born (some items) (some (items ++ [])) :=
      .goesOn items [] (by rintro item ⟨⟩)
    rwa [List.append_nil] at hsame

theorem LineGrows.mono {may' : Outgoing → Prop} (h : LineGrows may born before after)
    (hle : ∀ item, may item → may' item) (himp : born → born') :
    LineGrows may' born' before after := by
  cases h with
  | closes => exact .closes before
  | goesOn items said hmay => exact .goesOn items said fun item hitem => hle item (hmay item hitem)
  | begins said hborn hmay =>
    exact .begins said (himp hborn) fun item hitem => hle item (hmay item hitem)

end Lines

/-! ### Operations -/

section Moves

variable {may : LinkId → Outgoing → Prop} {post middle post' : Post} {k : LinkId}
  {item : Outgoing}

/-- A closed outbox gets no items. -/
theorem MailMove.empty (h : MailMove may post post')
    (hempty : ∀ k, (post.box k).line = none → (post.box k).outbox.items = []) (k : LinkId)
    (hline : (post'.box k).line = none) : (post'.box k).outbox.items = [] := by
  have hrefill {j : LinkId} {outbox : Outbox Outgoing} {own : Option SendPoint}
      (hsame : outbox.isOpen = (post.box j).outbox.isOpen ∧
        outbox.items = (post.box j).outbox.items)
      (hline : ((post.refill j outbox own).box k).line = none) :
      ((post.refill j outbox own).box k).outbox.items = [] := by
    by_cases hkj : k = j
    · subst hkj
      rw [Post.box_refill_self] at hline ⊢
      have hbefore : (post.box k).line = none := by
        rwa [Mailbox.line, hsame.1, hsame.2] at hline
      exact hsame.2.trans (hempty k hbefore)
    · rw [Post.box_refill_of_ne hkj] at hline ⊢
      exact hempty k hline
  have hputs {j : LinkId} {outbox : Outbox Outgoing} {own : Option SendPoint}
      (hopen : outbox.isOpen = true) (hline : ((post.refill j outbox own).box k).line = none) :
      ((post.refill j outbox own).box k).outbox.items = [] := by
    by_cases hkj : k = j
    · subst hkj
      rw [Post.box_refill_self, Mailbox.line, if_pos hopen] at hline
      cases hline
    · rw [Post.box_refill_of_ne hkj] at hline ⊢
      exact hempty k hline
  cases h with
  | puts j item outbox hmay free offer => exact hputs (Outbox.items_of_offer_sent offer).2.1 hline
  | joins j item outbox ticket hmay free offer =>
    exact hrefill (Outbox.items_of_offer_waits offer) hline
  | claims send outbox hmay waits claim =>
    exact hputs (Outbox.items_of_claim_sent claim).2.1 hline
  | loses send waits closed => exact hempty k hline
  | abandons send waits => exact hrefill (Outbox.items_abandon _ _) hline

namespace Post

theorem Grows.refl (hunborn : ∀ k, post.count ≤ k → (post.box k).line = none) :
    Grows may post post :=
  ⟨Nat.le_refl _, fun _ => .refl _, hunborn, fun h => h⟩

theorem Grows.mono {may' : LinkId → Outgoing → Prop} (h : Grows may post post')
    (hle : ∀ k item, may k item → may' k item) : Grows may' post post' :=
  ⟨h.count, fun k => (h.line k).mono (hle k) fun hborn => hborn, h.unborn, h.empty⟩

theorem Grows.trans (h : Grows may post middle) (h' : Grows may middle post')
    (hunborn : ∀ k, post.count ≤ k → (post.box k).line = none) : Grows may post post' where
  count := Nat.le_trans h.count h'.count
  line := by
    intro k
    refine ((h.line k).trans (h'.line k) fun hborn => ?_).mono (fun _ hmay => hmay) ?_
    · exact hunborn k (Nat.le_trans h.count hborn.1)
    · rintro (⟨hle, hlt⟩ | ⟨hle, hlt⟩)
      · exact ⟨hle, Nat.lt_of_lt_of_le hlt h'.count⟩
      · exact ⟨Nat.le_trans h.count hle, hlt⟩
  unborn := h'.unborn
  empty := fun hempty => h'.empty (h.empty hempty)

theorem Grows.of_still (hstill : Still post post')
    (hunborn : ∀ k, post.count ≤ k → (post.box k).line = none)
    (hempty : (∀ k, (post.box k).line = none → (post.box k).outbox.items = []) →
      ∀ k, (post'.box k).line = none → (post'.box k).outbox.items = []) :
    Grows may post post' where
  count := Nat.le_of_eq hstill.count.symm
  line := fun k => by rw [hstill.line]; exact .refl _
  unborn := fun k hk => by rw [hstill.line]; exact hunborn k (hstill.count ▸ hk)
  empty := hempty

theorem Grows.of_puts (hputs : Puts k item post post') (hmay : may k item)
    (hunborn : ∀ k, post.count ≤ k → (post.box k).line = none)
    (hempty : (∀ k, (post.box k).line = none → (post.box k).outbox.items = []) →
      ∀ k, (post'.box k).line = none → (post'.box k).outbox.items = []) :
    Grows may post post' where
  count := Nat.le_of_eq hputs.count.symm
  line := by
    intro j
    by_cases hj : j = k
    · subst hj
      obtain ⟨items, hbefore, hafter⟩ := hputs.self
      rw [hbefore, hafter]
      refine .goesOn items [item] fun other hother => ?_
      obtain rfl := List.mem_singleton.mp hother
      exact hmay
    · rw [hputs.other j hj]
      exact .refl _
  unborn := by
    intro j hj
    have hnone := hunborn j (hputs.count ▸ hj)
    by_cases hjk : j = k
    · subst hjk
      obtain ⟨items, hbefore, -⟩ := hputs.self
      rw [hbefore] at hnone
      cases hnone
    · rw [hputs.other j hjk]
      exact hnone
  empty := hempty

theorem grows_move (h : PostMove may post post')
    (hunborn : ∀ k, post.count ≤ k → (post.box k).line = none) : Grows may post post' := by
  cases h with
  | mails move =>
    rcases move.puts_or_still with hstill | ⟨k, item, hmay, hputs⟩
    · exact .of_still hstill hunborn fun h => move.empty h
    · exact .of_puts hputs hmay hunborn fun h => move.empty h
  | closes k mailbox closed empty =>
    have hline : mailbox.line = none := by simp [Mailbox.line, closed]
    have hself : Function.update post.box k mailbox k = mailbox := Function.update_self ..
    have hother {j : LinkId} (hj : j ≠ k) : Function.update post.box k mailbox j = post.box j :=
      Function.update_of_ne hj ..
    refine ⟨Nat.le_refl _, fun j => ?_, fun j hj => ?_, fun hempty j hj => ?_⟩
    · by_cases hjk : j = k
      · simp only [hjk, hself, hline]
        exact .closes _
      · simp only [hother hjk]
        exact .refl _
    · by_cases hjk : j = k
      · simp only [hjk, hself, hline]
      · simp only [hother hjk]
        exact hunborn j hj
    · by_cases hjk : j = k
      · simp only [hjk, hself]
        exact empty
      · simp only [hother hjk] at hj ⊢
        exact hempty j hj
  | opens gone =>
    have hself : Function.update post.box post.count .fresh post.count = .fresh :=
      Function.update_self ..
    have hother {j : LinkId} (hj : j ≠ post.count) :
        Function.update post.box post.count .fresh j = post.box j := Function.update_of_ne hj ..
    refine ⟨Nat.le_succ _, fun j => ?_, fun j hj => ?_, fun hempty j hj => ?_⟩
    · by_cases hjc : j = post.count
      · simp only [hjc, hself, gone]
        exact .begins [] ⟨Nat.le_refl _, Nat.lt_succ_self _⟩ (by rintro item ⟨⟩)
      · simp only [hother hjc]
        exact .refl _
    · simp only [hother (Nat.ne_of_gt hj)]
      exact hunborn j (Nat.le_of_succ_le hj)
    · by_cases hjc : j = post.count
      · simp only [hjc, hself]
        rfl
      · simp only [hother hjc] at hj ⊢
        exact hempty j hj

end Post

/-- Operations only put items behind others, close outboxes, and make new ones. -/
theorem PostMoves.grows (h : PostMoves may post post')
    (hunborn : ∀ k, post.count ≤ k → (post.box k).line = none) : Post.Grows may post post' := by
  induction h with
  | refl => exact .refl hunborn
  | tail _ hmove ih => exact ih.trans (Post.grows_move hmove ih.unborn) hunborn

/-- Nothing gets into a line that stays as it is. -/
theorem Post.Still.saidInLine_eq_nil (h : Post.Still post post') (k : LinkId) :
    saidInLine (post.box k).line (post'.box k).line = [] := by
  rw [saidInLine, h.line, List.drop_length]

theorem Post.Puts.saidInLine_eq (h : Post.Puts k item post post') (j : LinkId) :
    saidInLine (post.box j).line (post'.box j).line = if j = k then [item] else [] := by
  by_cases hj : j = k
  · subst hj
    obtain ⟨items, hbefore, hafter⟩ := h.self
    rw [saidInLine, hbefore, hafter, if_pos rfl]
    exact List.drop_left
  · rw [saidInLine, h.other j hj, List.drop_length, if_neg hj]

end Moves

/-! ### What was said and what was written -/

namespace Session

variable {s s' : Session} {spoken written : LinkId → List Outgoing} {own own' : Option SendPoint}
  {may : LinkId → Outgoing → Prop} {k : LinkId} {item : Outgoing}

theorem line_of_le (h : s.links.length ≤ k) : (s.mailbox k).line = none := by
  rw [mailbox_of_none (List.getElem?_eq_none_iff.mpr h)]
  rfl

/-- Whoever waits for room does not matter. -/
theorem grows_of_moves (h : PostMoves may (s.post own) (s'.post own')) :
    Post.Grows may (s.post none) (s'.post none) := by
  obtain ⟨hcount, hline, hunborn, hempty⟩ :=
    h.grows fun k hk => line_of_le (show s.links.length ≤ k from hk)
  exact ⟨hcount, hline, hunborn, hempty⟩

theorem said_may (h : Post.Grows may (s.post none) (s'.post none)) :
    ∀ item ∈ s.said s' k, may k item := (h.line k).said_may

/-- Whatever operations do to the lines. -/
theorem Follows.grows (h : s.Follows spoken written)
    (hgrows : Post.Grows may (s.post none) (s'.post none)) :
    s'.Follows (fun k => spoken k ++ s.said s' k) written where
  mailbox := by
    intro k
    obtain ⟨hgoesOn, -, hwithin⟩ := h.mailbox k
    refine ⟨fun items hitems => ?_, hgrows.empty (fun j => (h.mailbox j).empty) k,
      hwithin.trans (List.prefix_append _ _)⟩
    have hline : LineGrows (may k) _ (s.mailbox k).line (s'.mailbox k).line := hgrows.line k
    rw [said]
    rw [hitems] at hline ⊢
    generalize hbefore : (s.mailbox k).line = before at hline ⊢
    cases hline with
    | goesOn items said hmay =>
      rw [hgoesOn items hbefore]
      simp [saidInLine]
    | begins _ hborn hmay =>
      have hnothing := h.unborn k hborn.1
      rw [hnothing, List.prefix_nil] at hwithin
      rw [hnothing, hwithin]
      rfl
  unborn := by
    intro k hk
    have hle : s.links.length ≤ k := Nat.le_trans hgrows.count hk
    have hnone : (s'.mailbox k).line = none := hgrows.unborn k hk
    rw [h.unborn k hle, said, hnone, saidInLine, Option.getD_none, List.drop_nil]
    rfl

end Session

/-! ### Readers and writers -/

theorem Outbox.items_grant {α : Type} (outbox : Outbox α) :
    outbox.grant.isOpen = outbox.isOpen ∧ outbox.grant.items = outbox.items := by
  unfold grant
  split <;> exact ⟨rfl, rfl⟩

namespace Mailbox

variable {mailbox mailbox' : Mailbox} {spoken written : List Outgoing} {taken : Option Outgoing}
  {may : Outgoing → Prop} {born : Prop}

theorem line_congr (h : mailbox'.outbox.isOpen = mailbox.outbox.isOpen ∧
    mailbox'.outbox.items = mailbox.outbox.items) : mailbox'.line = mailbox.line := by
  rw [line, line, h.1, h.2]

/-- A reader says nothing but replies. -/
theorem Hears.grows (h : mailbox.Hears mailbox') (hmay : ∀ reply, may (.reply reply)) :
    LineGrows may born mailbox.line mailbox'.line := by
  have hputs {reply : Json} {outbox : Outbox Outgoing} {reader : ReaderPoint}
      (hsent : mailbox.outbox.isOpen = true ∧ outbox.isOpen = true ∧
        outbox.items = mailbox.outbox.items ++ [.reply reply]) :
      LineGrows may born mailbox.line { mailbox with outbox, reader }.line := by
    obtain ⟨hopen, hopen', hitems⟩ := hsent
    rw [line, line, if_pos hopen, if_pos (by exact hopen'), hitems]
    refine .goesOn _ _ fun item hitem => ?_
    obtain rfl := List.mem_singleton.mp hitem
    exact hmay reply
  cases h with
  | stays | loses | ends => exact .refl _
  | puts reply outbox reads offer => exact hputs (Outbox.items_of_offer_sent offer)
  | claims reply outbox ticket waits claim => exact hputs (Outbox.items_of_claim_sent claim)
  | joins reply outbox ticket reads offer =>
    have hsame : Mailbox.line { mailbox with outbox, reader := .replying reply ticket } =
        mailbox.line := line_congr (Outbox.items_of_offer_waits offer)
    rw [hsame]
    exact .refl _

theorem Hears.empty (h : mailbox.Hears mailbox')
    (hempty : mailbox.line = none → mailbox.outbox.items = []) (hline : mailbox'.line = none) :
    mailbox'.outbox.items = [] := by
  have hputs {outbox : Outbox Outgoing} {reader : ReaderPoint} (hopen : outbox.isOpen = true)
      (hline : { mailbox with outbox, reader }.line = none) : outbox.items = [] := by
    rw [line, if_pos hopen] at hline
    cases hline
  cases h with
  | stays | loses | ends => exact hempty hline
  | puts reply outbox reads offer => exact hputs (Outbox.items_of_offer_sent offer).2.1 hline
  | claims reply outbox ticket waits claim =>
    exact hputs (Outbox.items_of_claim_sent claim).2.1 hline
  | joins reply outbox ticket reads offer =>
    have hsame := Outbox.items_of_offer_waits offer
    have hbefore : Mailbox.line { mailbox with outbox, reader := .replying reply ticket } =
        mailbox.line := line_congr hsame
    exact hsame.2.trans (hempty (hbefore.symm.trans hline))

/-- A writer says nothing. -/
theorem Writes.said_eq_nil (h : mailbox.Writes taken mailbox') :
    saidInLine mailbox.line mailbox'.line = [] := by
  have hsame (line : Option (List Outgoing)) : saidInLine line line = [] := by
    rw [saidInLine, List.drop_length]
  cases h with
  | stays | gives => exact hsame _
  | closes after closed empty =>
    have hline : mailbox'.line = none := by simp [line, closed]
    rw [hline, saidInLine, Option.getD_none, List.drop_nil]
  | takes item message rest items idle isMessage =>
    obtain ⟨hopen, hitems⟩ := Outbox.items_grant { mailbox.outbox with items := rest }
    rw [line, line, hopen, hitems, items]
    cases mailbox.outbox.isOpen <;> simp [saidInLine]

/-- A writer takes what was said first. -/
theorem Follows.writes (h : mailbox.Follows spoken written) (hwrites : mailbox.Writes taken mailbox') :
    mailbox'.Follows spoken (written ++ taken.toList) := by
  obtain ⟨hgoesOn, hempty, hwithin⟩ := h
  have hwritten : written ++ (none : Option Outgoing).toList = written := List.append_nil _
  cases hwrites with
  | stays | gives =>
    rw [hwritten]
    exact ⟨hgoesOn, hempty, hwithin⟩
  | closes after closed empty =>
    have hline : mailbox'.line = none := by simp [line, closed]
    rw [hwritten]
    exact ⟨fun items hitems => absurd (hline.symm.trans hitems) (by rintro ⟨⟩), fun _ => empty,
      hwithin⟩
  | takes item message rest items idle isMessage =>
    obtain ⟨hopen, hitems⟩ := Outbox.items_grant { mailbox.outbox with items := rest }
    -- A closed outbox has nothing to be taken.
    have hline : mailbox.line = some (item :: rest) := by
      cases hline : mailbox.line with
      | none =>
        rw [hempty hline] at items
        cases items
      | some found =>
        rw [line] at hline
        split at hline
        · rw [← items, ← Option.some.inj hline]
        · cases hline
    have hspoken : spoken = (written ++ [item]) ++ rest := by
      rw [hgoesOn _ hline, List.append_assoc]
      rfl
    have hisOpen : mailbox.outbox.isOpen = true := by
      rw [line] at hline
      split at hline
      next hisOpen => exact hisOpen
      next => cases hline
    have hline' : Mailbox.line { mailbox with
        outbox := ({ mailbox.outbox with items := rest }).grant
        writer := .writing (encodeFrame message) } = some rest := by
      rw [line, hopen, hitems]
      exact if_pos hisOpen
    refine ⟨fun found hfound => ?_, fun hnone => ?_, ?_⟩
    · obtain rfl := Option.some.inj (hline'.symm.trans hfound)
      exact hspoken
    · exact absurd (hline'.symm.trans hnone) (by rintro ⟨⟩)
    · rw [hspoken]
      exact List.prefix_append _ _

end Mailbox

namespace Session

variable {s s' : Session} {spoken written : LinkId → List Outgoing} {id : LinkId}
  {may : LinkId → Outgoing → Prop}

/-- Something happens in one mailbox. -/
theorem Within.mailbox_of_ne {step : Mailbox → Mailbox → Prop} (h : Within step id s s') {k : LinkId}
    (hk : k ≠ id) : s'.mailbox k = s.mailbox k := by
  have hbox : s'.mailbox = Function.update s.mailbox id (s'.mailbox id) := congrArg Post.box h.post
  rw [hbox, Function.update_of_ne hk]

theorem Within.count {step : Mailbox → Mailbox → Prop} (h : Within step id s s') :
    s'.links.length = s.links.length := congrArg Post.count h.post

theorem grows_of_hears (h : Within Mailbox.Hears id s s') (hmay : ∀ k reply, may k (.reply reply)) :
    Post.Grows may (s.post none) (s'.post none) where
  count := Nat.le_of_eq h.count.symm
  line := by
    intro k
    show LineGrows (may k) _ (s.mailbox k).line (s'.mailbox k).line
    by_cases hk : k = id
    · subst hk
      exact h.step.grows (hmay k)
    · rw [h.mailbox_of_ne hk]
      exact .refl _
  unborn := by
    intro k hk
    have hle : s'.links.length ≤ k := hk
    exact line_of_le hle
  empty := by
    intro hempty k hk
    by_cases hkid : k = id
    · subst hkid
      exact h.step.empty (hempty k) hk
    · show (s'.mailbox k).outbox.items = []
      rw [h.mailbox_of_ne hkid]
      have hline : (s'.mailbox k).line = none := hk
      rw [h.mailbox_of_ne hkid] at hline
      exact hempty k hline

/-- A writer has gone on. -/
theorem Follows.writes {taken : Option Outgoing} (h : s.Follows spoken written)
    (hwrites : Within (·.Writes taken ·) id s s') :
    s'.Follows (fun k => spoken k ++ s.said s' k)
        (fun k => written k ++ if k = id then taken.toList else []) ∧ ∀ k, s.said s' k = [] := by
  have hsaid (k : LinkId) : s.said s' k = [] := by
    by_cases hk : k = id
    · subst hk
      exact hwrites.step.said_eq_nil
    · rw [said, hwrites.mailbox_of_ne hk, saidInLine, List.drop_length]
  refine ⟨⟨fun k => ?_, fun k hk => ?_⟩, hsaid⟩
  · rw [hsaid, List.append_nil]
    by_cases hk : k = id
    · subst hk
      rw [if_pos rfl]
      exact (h.mailbox k).writes hwrites.step
    · rw [hwrites.mailbox_of_ne hk, if_neg hk, List.append_nil]
      exact h.mailbox k
  · rw [hsaid, List.append_nil]
    exact h.unborn k (hwrites.count ▸ hk)

/-- What readers and writers do. Readers say nothing but replies. -/
theorem Follows.undergo (h : s.Follows spoken written) (now : Instant) (event : SessionEvent) :
    (s.undergo now event).Follows (fun k => spoken k ++ s.said (s.undergo now event) k)
      (fun k => written k ++ (s.takenItem? k event).toList) ∧
      ∀ k, ∀ item ∈ s.said (s.undergo now event) k, ∃ reply, item = .reply reply := by
  obtain ⟨id, hothers, ⟨hnone, hhears⟩ | hwrites⟩ := within_undergo now event s
  · have hgrows : Post.Grows (fun _ item => ∃ reply, item = .reply reply) (s.post none)
        ((s.undergo now event).post none) := grows_of_hears hhears fun _ reply => ⟨reply, rfl⟩
    have htaken : (fun k => written k ++ (s.takenItem? k event).toList) = written := by
      funext k
      have hk : s.takenItem? k event = none := by
        by_cases hk : k = id
        · rw [hk, hnone]
        · exact hothers k hk
      rw [hk]
      exact List.append_nil _
    rw [htaken]
    exact ⟨h.grows hgrows, fun k => said_may hgrows⟩
  · obtain ⟨hfollows, hsaid⟩ := h.writes hwrites
    have htaken : (fun k => written k ++ (s.takenItem? k event).toList) =
        fun k => written k ++ if k = id then (s.takenItem? id event).toList else [] := by
      funext k
      by_cases hk : k = id
      · rw [hk, if_pos rfl]
      · rw [hothers k hk, if_neg hk]
        rfl
    rw [htaken]
    refine ⟨hfollows, fun k item hitem => ?_⟩
    rw [hsaid] at hitem
    cases hitem

end Session
end SymbolSearch
