import SymbolSearch.Proofs.Session.Saying

/-!
# What is heard from servers

Operations on a session make links and give them up, but only the reader of a link hears what its
server says. This file says once what every operation leaves alone.

* `Session.frames` — what has come from the servers, for each link, as far as it was not handled.
* `SessionTask.unheard_step` and `SessionTask.frames_cancel` — an operation makes new links at most.
* `Mailbox.Undisturbed` — a reader goes on as it was, as long as its link can speak.
* `PostMoves.undisturbed` and `Mailbox.Writes.undisturbed` — neither operations nor writers
  disturb one.
-/

namespace SymbolSearch

/-! ### What has come from the servers -/

/-- A link of which nothing is known yet. -/
def Link.unborn : Link := { process := .absent }

theorem Link.frames_stepWriter (link : Link) : link.stepWriter.1.frames = link.frames := by
  unfold stepWriter
  split
  · split
    · split <;> rfl
    · split <;> rfl
  · rfl

namespace Session

/-- What has come from the servers, for each link. -/
def frames (s : Session) : List FrameReader := s.links.map (·.frames)

/-- Nothing was heard; there are new links at most. -/
def Unheard (s s' : Session) : Prop :=
  ∃ n, s'.frames = s.frames ++ List.replicate n ({} : FrameReader)

variable {s s' : Session}

theorem unheard_of_frames (h : s'.frames = s.frames) : s.Unheard s' :=
  ⟨0, h.trans (List.append_nil _).symm⟩

theorem Unheard.frames_eq {k : LinkId} {link' : Link} (h : s.Unheard s')
    (hlink : s'.links[k]? = some link') :
    link'.frames = ((s.links[k]?).getD .unborn).frames := by
  obtain ⟨n, hframes⟩ := h
  have hafter : s'.frames[k]? = some link'.frames := by rw [frames, List.getElem?_map, hlink]; rfl
  rw [hframes, List.getElem?_append] at hafter
  split at hafter
  next hlt =>
    rw [frames, List.getElem?_map] at hafter
    obtain ⟨link, hold, hsame⟩ := Option.map_eq_some_iff.mp hafter
    rw [hold]
    exact hsame.symm
  next hle =>
    rw [frames, List.length_map, Nat.not_lt] at hle
    rw [List.getElem?_eq_none_iff.mpr hle]
    exact List.eq_of_mem_replicate (List.mem_of_getElem? hafter)

theorem frames_updateLink {change : Link → Link} (id : LinkId)
    (h : ∀ link, (change link).frames = link.frames) :
    (s.updateLink id change).frames = s.frames := by
  apply List.ext_getElem?
  intro k
  simp only [frames, updateLink, List.getElem?_map, List.getElem?_modify]
  by_cases hk : id = k
  · simp only [hk, if_true, Option.map_eq_map, Option.map_map]
    exact congrArg (Option.map · s.links[k]?) (funext h)
  · simp only [hk, if_false, Option.map_eq_map, Option.map_id_fun', id_eq]

@[simp]
theorem frames_updateOutbox (id : LinkId) (change : Outbox Outgoing → Outbox Outgoing) :
    (s.updateOutbox id change).frames = s.frames := frames_updateLink id fun _ => rfl

theorem frames_stopReader (link : Link) : link.stopReader.frames = link.frames := by
  unfold Link.stopReader
  split <;> rfl

@[simp]
theorem frames_drop (id : LinkId) : (s.updateLink id Link.drop).frames = s.frames :=
  frames_updateLink id frames_stopReader

@[simp]
theorem frames_releaseWriter : s.releaseWriter.frames = s.frames := by
  unfold releaseWriter
  split
  next id _ => exact frames_updateOutbox id _
  next => rfl

@[simp]
theorem frames_dropConnection : s.dropConnection.frames = s.frames := by
  unfold dropConnection
  split
  next id _ => exact frames_drop id
  next => rfl

@[simp]
theorem frames_markCrashed (now : Instant) : (s.markCrashed now).frames = s.frames :=
  frames_releaseWriter

@[simp]
theorem frames_addLink (process : ServerProcess) :
    (s.addLink process).frames = s.frames ++ [({} : FrameReader)] := List.map_append

end Session

open Session

/-! #### Operations -/

variable {s : Session} {now : Instant}

namespace SendPoint

@[simp]
theorem frames_begin (s : Session) (link : LinkId) (item : Outgoing) :
    (SendPoint.begin s link item).1.frames = s.frames := by
  unfold SendPoint.begin
  split
  · rfl
  · split <;> simp

@[simp]
theorem frames_step (point : SendPoint) (s : Session) : (point.step s).1.frames = s.frames := by
  unfold step
  split
  · rfl
  · split <;> simp

@[simp]
theorem frames_cancel (point : SendPoint) (s : Session) : (point.cancel s).frames = s.frames :=
  frames_updateOutbox _ _

end SendPoint

namespace CallPoint

theorem frames_refuse (s : Session) (reply : PendingReply) (link : LinkId) :
    (refuse s reply link).1.frames = s.frames := frames_updateOutbox link _

@[simp]
theorem frames_step (now : Instant) (point : CallPoint) (s : Session) :
    (point.step now s).1.frames = s.frames := by
  cases point with
  | starting call timeout =>
    simp only [step]
    split
    next => rfl
    next link _ =>
      generalize hstep : SendPoint.begin _ link _ = stepped
      have hframes : stepped.1.frames = s.frames := by
        rw [← hstep, SendPoint.frames_begin]
        exact frames_updateOutbox link _
      split
      · exact hframes
      · exact (frames_refuse _ _ link).trans hframes
      · exact hframes
      · exact hframes
  | sending reply send =>
    simp only [step]
    have hframes := send.frames_step s
    generalize send.step s = stepped at hframes ⊢
    split
    · exact hframes
    · exact (frames_refuse _ reply send.link).trans hframes
    · exact hframes
    · exact hframes
  | waiting reply link =>
    simp only [step]
    split
    · exact frames_updateOutbox link _
    · rfl

@[simp]
theorem frames_cancel (point : CallPoint) (s : Session) : (point.cancel s).frames = s.frames := by
  cases point with
  | starting call timeout => rfl
  | sending reply send => exact (frames_updateOutbox send.link _).trans (send.frames_cancel s)
  | waiting reply link => exact frames_updateOutbox link _

end CallPoint

namespace QueryPoint

theorem frames_afterCall (query : Query)
    (stepped : Stepped Session CallPoint (Except SessionError Json)) :
    (afterCall query stepped).1.frames = stepped.1.frames := by
  obtain ⟨m, progress⟩ := stepped
  cases progress with
  | blocked | moved => rfl
  | finished result =>
    simp only [afterCall, finish]
    split
    · rfl
    · dsimp only
      split <;> rfl

theorem frames_step (now : Instant) (point : QueryPoint) (s : Session) :
    (point.step now s).1.frames = s.frames := by
  cases point with
  | starting query =>
    simp only [step]
    split
    · exact (frames_afterCall query _).trans (CallPoint.frames_step now _ s)
    · rfl
  | calling query call => exact (frames_afterCall query _).trans (call.frames_step now s)

theorem frames_cancel (point : QueryPoint) (s : Session) : (point.cancel s).frames = s.frames := by
  cases point with
  | starting query => rfl
  | calling query call => exact call.frames_cancel s

end QueryPoint

namespace NoticePoint

theorem frames_step (point : NoticePoint) (s : Session) : (point.step s).1.frames = s.frames := by
  cases point with
  | starting notice =>
    simp only [step]
    split
    · split
      next => rfl
      next link _ =>
        have hframes := SendPoint.frames_begin s link (.notice notice)
        generalize SendPoint.begin s link (.notice notice) = stepped at hframes ⊢
        split <;> exact hframes
    · rfl
  | sending send =>
    simp only [step]
    have hframes := send.frames_step s
    generalize send.step s = stepped at hframes ⊢
    split <;> exact hframes

theorem frames_cancel (point : NoticePoint) (s : Session) :
    (point.cancel s).frames = s.frames := by
  cases point with
  | starting notice => rfl
  | sending send => exact send.frames_cancel s

end NoticePoint

namespace EnsurePoint

@[simp]
theorem frames_crash (ticket : Ticket) (s : Session) (error : SessionError) :
    (crash now ticket s error).1.frames = s.frames :=
  frames_dropConnection.trans (frames_markCrashed now)

@[simp]
theorem frames_fail (ticket : Ticket) (s : Session) (error : SessionError) :
    (fail now ticket s error).1.frames = s.frames := by
  unfold fail
  split <;> exact frames_crash ticket s _

theorem frames_confirm (ticket : Ticket) (deadline : Instant) (s : Session) (answer : Json) :
    (confirm now ticket deadline s answer).1.frames = s.frames := by
  unfold confirm
  split
  next => exact frames_fail ticket s _
  next =>
    split
    next => exact frames_fail ticket s _
    next link _ =>
      have hframes := SendPoint.frames_begin s link (.notice .initialized)
      generalize SendPoint.begin s link (.notice .initialized) = stepped at hframes ⊢
      split
      · exact hframes
      · exact hframes
      · exact (frames_fail ticket _ _).trans hframes

theorem frames_afterCall (ticket : Ticket) (deadline : Instant)
    (stepped : Stepped Session CallPoint (Except SessionError Json)) :
    (afterCall now ticket deadline stepped).1.frames = stepped.1.frames := by
  obtain ⟨m, progress⟩ := stepped
  cases progress with
  | blocked | moved => rfl
  | finished result =>
    cases result with
    | ok answer => exact frames_confirm ticket deadline m answer
    | error error => exact frames_fail ticket m error

theorem frames_decide (now : Instant) (ticket : Ticket) (s : Session) :
    (decide now ticket s).1.frames = s.frames := by
  unfold decide
  split
  any_goals rfl
  · exact frames_dropConnection
  · split
    · rfl
    · dsimp only
      split
      · rfl
      · exact frames_dropConnection

/-- A session that is brought up may get a new link. -/
theorem unheard_step (now : Instant) (point : EnsurePoint) (s : Session) :
    s.Unheard (point.step now s).1 := by
  cases point with
  | asking => exact unheard_of_frames rfl
  | queued ticket =>
    simp only [step]
    split
    · exact unheard_of_frames (frames_decide now ticket s)
    · exact unheard_of_frames rfl
  | cooling resume =>
    simp only [step]
    split <;> exact unheard_of_frames rfl
  | launching ticket =>
    simp only [step]
    split
    next process _ => exact ⟨1, frames_addLink process⟩
    next => exact unheard_of_frames (frames_markCrashed now)
    next => exact unheard_of_frames rfl
  | linked ticket deadline =>
    simp only [step, greet]
    split
    · exact unheard_of_frames (frames_fail ticket s _)
    · exact unheard_of_frames
        ((frames_afterCall ticket deadline _).trans (CallPoint.frames_step now _ s))
  | greeting ticket call deadline =>
    simp only [step]
    have hframes := call.frames_step now s
    generalize call.step now s = stepped at hframes ⊢
    split
    · split
      · exact unheard_of_frames
          ((frames_crash ticket _ _).trans ((call.frames_cancel _).trans hframes))
      · exact unheard_of_frames hframes
    · exact unheard_of_frames ((frames_afterCall ticket deadline _).trans hframes)
  | confirming ticket send deadline capabilities =>
    simp only [step]
    have hframes := send.frames_step s
    generalize send.step s = stepped at hframes ⊢
    split
    · exact unheard_of_frames hframes
    · exact unheard_of_frames hframes
    · exact unheard_of_frames ((frames_fail ticket _ _).trans hframes)
    · split
      · exact unheard_of_frames
          ((frames_crash ticket _ _).trans ((send.frames_cancel _).trans hframes))
      · exact unheard_of_frames hframes

theorem frames_cancel (point : EnsurePoint) (s : Session) :
    (point.cancel s).frames = s.frames := by
  cases point with
  | greeting ticket call deadline => exact call.frames_cancel s
  | confirming ticket send deadline capabilities => exact send.frames_cancel s
  | asking | queued | cooling | launching | linked => rfl

end EnsurePoint

namespace StopPoint

theorem frames_close (ticket : Ticket) (s : Session) :
    (close now ticket s).1.frames = s.frames := by
  unfold close
  split
  · rfl
  · dsimp only
    split <;> rfl

theorem frames_finishOutbox (ticket : Ticket) (s : Session) :
    (finishOutbox now ticket s).1.frames = s.frames := by
  unfold finishOutbox
  split
  next => exact frames_close ticket s
  next link _ =>
    have hframes := SendPoint.frames_begin s link .finish
    generalize SendPoint.begin s link .finish = stepped at hframes ⊢
    split
    · exact frames_releaseWriter.trans hframes
    · exact (frames_close ticket _).trans (frames_releaseWriter.trans hframes)

theorem frames_sendExit (ticket : Ticket) (s : Session) :
    (sendExit now ticket s).1.frames = s.frames := by
  unfold sendExit
  split
  next => exact frames_finishOutbox ticket s
  next link _ =>
    have hframes := SendPoint.frames_begin s link (.notice .exit)
    generalize SendPoint.begin s link (.notice .exit) = stepped at hframes ⊢
    split
    · exact hframes
    · exact (frames_finishOutbox ticket _).trans hframes

theorem frames_afterFarewell (ticket : Ticket)
    (stepped : Stepped Session CallPoint (Except SessionError Json)) :
    (afterFarewell now ticket stepped).1.frames = stepped.1.frames := by
  obtain ⟨m, progress⟩ := stepped
  cases progress with
  | blocked | moved => rfl
  | finished result => exact frames_sendExit ticket m

theorem frames_step (now : Instant) (point : StopPoint) (s : Session) :
    (point.step now s).1.frames = s.frames := by
  cases point with
  | asking => rfl
  | queued ticket =>
    simp only [step, decide]
    split
    · split <;> rfl
    · rfl
  | parting ticket asked =>
    simp only [step, part]
    split
    · exact (frames_afterFarewell ticket _).trans (CallPoint.frames_step now _ s)
    · exact frames_finishOutbox ticket s
  | farewell ticket call => exact (frames_afterFarewell ticket _).trans (call.frames_step now s)
  | exiting ticket send =>
    simp only [step]
    have hframes := send.frames_step s
    generalize send.step s = stepped at hframes ⊢
    split
    · exact hframes
    · exact (frames_finishOutbox ticket _).trans hframes
    · exact hframes
  | finishing ticket send =>
    simp only [step]
    have hframes := send.frames_step s
    generalize send.step s = stepped at hframes ⊢
    split
    · exact hframes
    · exact (frames_close ticket _).trans hframes
    · exact hframes
  | reaping ticket link deadline =>
    simp only [step]
    split
    · split
      · exact frames_updateLink link fun _ => rfl
      · rfl
    · rfl
  | killing ticket link =>
    simp only [step]
    split <;> rfl
  | draining ticket link deadline =>
    simp only [step]
    split
    · exact frames_drop link
    · rfl

theorem frames_cancel (point : StopPoint) (s : Session) : (point.cancel s).frames = s.frames := by
  cases point with
  | farewell ticket call => exact call.frames_cancel s
  | exiting ticket send | finishing ticket send => exact send.frames_cancel s
  | reaping ticket link | killing ticket link | draining ticket link => exact frames_drop link
  | asking | queued | parting => rfl

end StopPoint

namespace Session

theorem frames_resetNow (s : Session) : s.resetNow.1.frames = s.frames := by
  unfold resetNow
  split
  · exact frames_releaseWriter.trans frames_dropConnection
  · exact frames_releaseWriter.trans frames_dropConnection
  · rfl

end Session

theorem GuardPoint.frames_step {ρ : Type} {act : Session → Session × ρ}
    (h : (act s).1.frames = s.frames) (point : GuardPoint) :
    (point.step act s).1.frames = s.frames := by
  cases point with
  | asking => rfl
  | queued ticket =>
    simp only [step]
    split
    · exact h
    · rfl

namespace SessionTask

/-- Operations hear nothing from servers; they make new links at most. -/
theorem unheard_step (now : Instant) (task : SessionTask) (s : Session) :
    s.Unheard (task.step now s).1 := by
  cases task with
  | ensure point => exact point.unheard_step now s
  | ask point => exact unheard_of_frames (point.frames_step now s)
  | notify point => exact unheard_of_frames (point.frames_step s)
  | stop point => exact unheard_of_frames (point.frames_step now s)
  | reset point => exact unheard_of_frames (GuardPoint.frames_step s.frames_resetNow point)
  | checkAlive point =>
    obtain ⟨turns, hturns⟩ := s.exists_stepAlive point
    have hframes : (s.stepAlive point).1.frames = s.frames := by rw [hturns]; rfl
    exact unheard_of_frames hframes

theorem frames_cancel (task : SessionTask) (s : Session) : (task.cancel s).frames = s.frames := by
  cases task with
  | ensure point => exact point.frames_cancel s
  | ask point => exact point.frames_cancel s
  | notify point => exact point.frames_cancel s
  | stop point => exact point.frames_cancel s
  | reset point | checkAlive point => cases point <;> rfl

end SessionTask

/-! ### Readers that nobody disturbs -/

/-- A reader goes on as it was, unless its link can speak no more. -/
def Mailbox.Undisturbed (before after : Mailbox) : Prop :=
  after.outbox.isOpen = true → before.outbox.isOpen = true ∧ after.reader = before.reader

namespace Mailbox

theorem Undisturbed.refl (mailbox : Mailbox) : mailbox.Undisturbed mailbox := fun h => ⟨h, rfl⟩

theorem Undisturbed.trans {before middle after : Mailbox} (h : before.Undisturbed middle)
    (h' : middle.Undisturbed after) : before.Undisturbed after := fun hopen =>
  have hafter := h' hopen
  have hmiddle := h hafter.1
  ⟨hmiddle.1, hafter.2.trans hmiddle.2⟩

/-- A writer does not disturb the reader. -/
theorem Writes.undisturbed {mailbox mailbox' : Mailbox} {taken : Option Outgoing}
    (h : mailbox.Writes taken mailbox') : mailbox.Undisturbed mailbox' := by
  cases h with
  | stays | gives => exact fun hopen => ⟨hopen, rfl⟩
  | takes item message rest items idle isMessage =>
    have hsame := (Outbox.items_grant { mailbox.outbox with items := rest }).1
    exact fun hopen => ⟨hsame.symm.trans hopen, rfl⟩
  | closes after closed empty => exact fun hopen => absurd (closed.symm.trans hopen) nofun

end Mailbox

/-- What one sender does to a post. -/
theorem MailMove.undisturbed {may : LinkId → Outgoing → Prop} {post post' : Post}
    (h : MailMove may post post') (k : LinkId) : (post.box k).Undisturbed (post'.box k) := by
  have hrefill {j : LinkId} {outbox : Outbox Outgoing} {own : Option SendPoint}
      (hopen : outbox.isOpen = true → (post.box j).outbox.isOpen = true) :
      (post.box k).Undisturbed ((post.refill j outbox own).box k) := by
    by_cases hkj : k = j
    · subst hkj
      rw [Post.box_refill_self]
      exact fun h => ⟨hopen h, rfl⟩
    · rw [Post.box_refill_of_ne hkj]
      exact .refl _
  cases h with
  | puts j item outbox hmay free offer =>
    exact hrefill fun _ => (Outbox.items_of_offer_sent offer).1
  | joins j item outbox ticket hmay free offer =>
    exact hrefill fun hopen => (Outbox.items_of_offer_waits offer).1.symm.trans hopen
  | claims send outbox hmay waits claim =>
    exact hrefill fun _ => (Outbox.items_of_claim_sent claim).1
  | loses send waits closed => exact .refl _
  | abandons send waits => exact hrefill fun hopen => (Outbox.items_abandon _ _).1.symm.trans hopen

theorem MailMove.count_eq {may : LinkId → Outgoing → Prop} {post post' : Post}
    (h : MailMove may post post') : post'.count = post.count := by
  cases h <;> rfl

/-- A mailbox as it was, or as it is when its link is made. -/
def Post.origin (post : Post) (k : LinkId) : Mailbox :=
  if k < post.count then post.box k else .fresh

theorem Session.origin_post (s : Session) (own : Option SendPoint) (k : LinkId) :
    (s.post own).origin k = ((s.links[k]?).getD .unborn).mailbox := by
  by_cases hk : k < s.links.length
  · have hlink : s.links[k]? = some s.links[k] := List.getElem?_eq_getElem hk
    have hbox : (s.post own).box k = s.links[k].mailbox := mailbox_eq hlink
    rw [Post.origin, if_pos (by exact hk), hbox, hlink]
    rfl
  · rw [Post.origin, if_neg (by exact hk), List.getElem?_eq_none_iff.mpr (Nat.not_lt.mp hk)]
    rfl

/-- Operations disturb no reader, not even on a link that they have made. -/
theorem PostMoves.undisturbed {may : LinkId → Outgoing → Prop} {post post' : Post}
    (h : PostMoves may post post') : post.count ≤ post'.count ∧
      ∀ k, k < post'.count → (post.origin k).Undisturbed (post'.box k) := by
  induction h with
  | refl =>
    refine ⟨Nat.le_refl _, fun k hk => ?_⟩
    rw [Post.origin, if_pos hk]
    exact .refl _
  | @tail middle _ _ hmove ih =>
    obtain ⟨hcount, hsame⟩ := ih
    cases hmove with
    | mails move =>
      rw [move.count_eq]
      exact ⟨hcount, fun k hk => (hsame k hk).trans (move.undisturbed k)⟩
    | closes j mailbox closed empty =>
      refine ⟨hcount, fun k hk hopen => ?_⟩
      by_cases hkj : k = j
      · subst hkj
        simp only [Function.update_self, closed, Bool.false_eq_true] at hopen
      · simp only [Function.update_of_ne hkj] at hopen ⊢
        exact hsame k hk hopen
    | opens gone =>
      refine ⟨Nat.le_succ_of_le hcount, fun k hk => ?_⟩
      rcases Nat.lt_succ_iff_lt_or_eq.mp hk with hold | rfl
      · simp only [Function.update_of_ne (Nat.ne_of_lt hold)]
        exact hsame k hold
      · simp only [Post.origin, if_neg (Nat.not_lt_of_le hcount), Function.update_self]
        exact .refl _

end SymbolSearch
