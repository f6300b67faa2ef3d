import SymbolSearch.Proofs.Rpc.Encoding
import SymbolSearch.Proofs.Rpc.Envelopes
import SymbolSearch.Proofs.Session.Hearing
import SymbolSearch.Proofs.Session.Words

/-!
# Replies to requests of servers

A server may ask its client something. The reader of its link replies at once, or as soon as there
is room, and hears nothing meanwhile.

* `FrameEvent.request?` — the request that an event of a stream brings; `ServerRequest.Answered`
  says what the reply to it must be.
* `Link.Listens` — what one event does to the frames of a link and the replies to them.
* `SessionCourse.replies_after` — any course: what the bytes of a server ask is replied to, each
  request once and in order, and nothing else is.
-/

namespace SymbolSearch

/-! ### Requests -/

/-- A request that a server makes. -/
structure ServerRequest where
  id : MessageId
  method : String
  params : Option Json

/-- The request that an event of a stream brings. Frames that are no messages bring none, nor do
    responses, notifications and faults. -/
def FrameEvent.request? : FrameEvent → Option ServerRequest
  | .frame found =>
    match Message.classify found.value with
    | .ok (.request id method params) => some ⟨id, method, params⟩
    | _ => none
  | .error _ => none

namespace ServerRequest

/-- The reply to a request. -/
def reply (request : ServerRequest) : Json :=
  replyToServer request.id request.method request.params

/-- The items that a request is about. -/
def items (request : ServerRequest) : List Json :=
  ((request.params.bind (Json.field? "items")).bind Json.array?).getD []

/-- The requests that are acknowledged. -/
def acknowledged : List String :=
  ["client/registerCapability", "client/unregisterCapability", "window/workDoneProgress/create"]

/-- What the reply to a request must be: a response to this very request. -/
structure Answered (request : ServerRequest) : Prop where
  /-- The reply is read as it was written. -/
  encodes : Json.ofBytes? request.reply.compact.toUTF8 = some request.reply
  acknowledges : request.method ∈ acknowledged →
    Message.classify request.reply = .ok (.response request.id (.ok .null))
  /-- There is one value for each item. -/
  configures : request.method = "workspace/configuration" →
    Message.classify request.reply =
      .ok (.response request.id (.ok (.array (List.replicate request.items.length .null))))
  refuses : request.method ∉ acknowledged → request.method ≠ "workspace/configuration" →
    Message.classify request.reply = .ok (.response request.id
      (.error ⟨-32601, "Method not found: " ++ request.method, none⟩))

end ServerRequest

/-! #### What is replied -/

namespace ServerRequest

variable {request : ServerRequest}

/-- There are three kinds of replies. -/
theorem reply_eq (request : ServerRequest) : request.reply =
    if request.method ∈ acknowledged then Message.encodeResult request.id .null
    else if request.method = "workspace/configuration" then
      Message.encodeResult request.id (.array (List.replicate request.items.length .null))
    else Message.encodeMethodNotFound request.id request.method := by
  have hnulls : (request.items.map fun _ => Json.null) =
      List.replicate request.items.length .null := List.map_const' ..
  rw [← hnulls]
  rfl

theorem isTidy_reply (h : request.id.Fits) : request.reply.IsTidy 2 := by
  have hid := MessageId.isTidy_toJson h 1
  have hresult {value : Json} (hvalue : value.IsTidy 1) :
      (Message.encodeResult request.id value).IsTidy 2 := by
    refine .ofFields fun field hfield => ?_
    simp only [List.mem_cons, List.not_mem_nil, or_false] at hfield
    obtain rfl | rfl | rfl := hfield
    · exact hid
    · exact .string _
    · exact hvalue
  rw [reply_eq]
  split
  · exact hresult .null
  · split
    · refine hresult (.array fun item hitem => ?_)
      rw [List.eq_of_mem_replicate hitem]
      exact .null
    · refine .ofFields fun field hfield => ?_
      simp only [List.mem_cons, List.not_mem_nil, or_false] at hfield
      obtain rfl | rfl | rfl := hfield
      · refine .ofPresent fun part hpart => ?_
        simp only [List.mem_cons, List.not_mem_nil, or_false] at hpart
        obtain rfl | rfl | rfl := hpart
        · rintro _ ⟨⟩
          exact .int rfl
        · rintro _ ⟨⟩
        · rintro _ ⟨⟩
          exact .string _
      · exact hid
      · exact .string _

theorem answered_of_fits (h : request.id.Fits) : request.Answered where
  encodes := by
    have htidy := isTidy_reply h
    rw [Json.ofBytes?, decodeStrict_toUTF8, Option.bind_some,
      Json.read_compact htidy.integral (Nat.le_trans htidy.depth_le (by decide)),
      Json.canonical_eq_self htidy.sorted]
  acknowledges hmethod := by
    rw [reply_eq, if_pos hmethod]
    exact Message.classify_encodeResult_iff.mpr h
  configures hmethod := by
    have hother : request.method ∉ acknowledged := by
      rw [hmethod]
      decide
    rw [reply_eq, if_neg hother, if_pos hmethod]
    exact Message.classify_encodeResult_iff.mpr h
  refuses hacknowledged hmethod := by
    rw [reply_eq, if_neg hacknowledged, if_neg hmethod]
    exact (Message.classify_encodeFailure_iff (Message.fits_methodNotFound request.method)).mpr h

theorem answered_of_request? {event : FrameEvent} (h : event.request? = some request) :
    request.Answered := by
  unfold FrameEvent.request? at h
  split at h
  next found =>
    split at h
    next id method params hclassify =>
      obtain rfl := Option.some.inj h
      exact answered_of_fits (Message.fits_of_classify hclassify)
    next => cases h
  next => cases h

end ServerRequest

/-! ### Replies that are said -/

/-- The replies that the events of a stream call for. -/
def repliesTo (events : List FrameEvent) : List Json :=
  events.filterMap fun event => event.request?.map ServerRequest.reply

/-- The reply that an item of the outbox is, if it is one. -/
def Outgoing.reply? : Outgoing → Option Json
  | .reply message => some message
  | _ => none

/-- The reply that waits for room. -/
def ReaderPoint.reply? : ReaderPoint → Option Json
  | .replying reply _ => some reply
  | _ => none

/-- The reply that an item from a stream calls for. -/
def FrameReader.Item.reply? : FrameReader.Item → Option Json
  | .event found => found.request?.map ServerRequest.reply
  | _ => none

theorem repliesTo_append (events more : List FrameEvent) :
    repliesTo (events ++ more) = repliesTo events ++ repliesTo more := List.filterMap_append

theorem repliesTo_cons (event : FrameEvent) (rest : List FrameEvent) :
    repliesTo (event :: rest) = (FrameReader.Item.event event).reply?.toList ++ repliesTo rest := by
  cases h : event.request? <;> simp [repliesTo, FrameReader.Item.reply?, h]

/-! #### The frames of a link -/

/-- The bytes that a read brings. -/
def SourceRead.chunk? : SourceRead → Option ByteArray
  | .bytes chunk => some chunk
  | _ => none

/-- A reader of frames has taken some bytes, and what is due to be replied is still queued, or was
    handed out. -/
structure FrameReader.Hears (chunk? : Option ByteArray) (reply? : Option Json)
    (before after : FrameReader) : Prop where
  decoder : after.decoder = (before.decoder.feedAll chunk?.toList).1
  replies : repliesTo before.queued ++ repliesTo (before.decoder.feedAll chunk?.toList).2 =
    reply?.toList ++ repliesTo after.queued

namespace FrameReader

theorem Hears.refl (r : FrameReader) : r.Hears none none r := ⟨rfl, List.append_nil _⟩

theorem hears_next? (r : FrameReader) :
    r.Hears none (r.next?.1.bind Item.reply?) r.next?.2 := by
  obtain ⟨decoder, queued, ended⟩ := r
  cases queued with
  | cons event rest =>
    refine ⟨rfl, ?_⟩
    show repliesTo (event :: rest) ++ [] = _
    rw [List.append_nil, repliesTo_cons]
    rfl
  | nil => cases ended <;> exact ⟨rfl, rfl⟩

theorem hears_absorb (r : FrameReader) (said : SourceRead) :
    r.Hears said.chunk? ((r.absorb said).1.bind Item.reply?) (r.absorb said).2 := by
  cases said with
  | bytes chunk =>
    -- The new events are put behind the others before the first one is handed out.
    obtain ⟨hdecoder, hreplies⟩ := hears_next?
      { r with decoder := (r.decoder.feed chunk).1, queued := r.queued ++ (r.decoder.feed chunk).2 }
    refine ⟨hdecoder, ?_⟩
    show repliesTo r.queued ++ repliesTo ((r.decoder.feed chunk).2 ++ []) = _
    rw [List.append_nil, ← repliesTo_append]
    exact (List.append_nil _).symm.trans hreplies
  | ended =>
    simp only [absorb]
    split <;> exact ⟨rfl, List.append_nil _⟩
  | failed reason => exact ⟨rfl, List.append_nil _⟩

end FrameReader

/-! #### The mailbox of a link -/

/-- The replies among some items. -/
def repliesAmong (items : List Outgoing) : List Json := items.filterMap Outgoing.reply?

/-- A reader has got one more reply to give, or none. What waited for room has got in, or still
    waits. -/
def Mailbox.Replies (reply? : Option Json) (before after : Mailbox) : Prop :=
  after.outbox.isOpen = true → before.outbox.isOpen = true ∧
    repliesAmong (saidInLine before.line after.line) ++ after.reader.reply?.toList =
      before.reader.reply?.toList ++ reply?.toList

namespace Mailbox

variable {before after : Mailbox} {reply : Json} {ticket : Ticket} {outbox : Outbox Outgoing}

theorem Undisturbed.replies (h : before.Undisturbed after)
    (hquiet : repliesAmong (saidInLine before.line after.line) = []) :
    before.Replies none after := by
  intro hopen
  obtain ⟨hbefore, hreader⟩ := h hopen
  refine ⟨hbefore, ?_⟩
  rw [hquiet, hreader]
  exact (List.append_nil _).symm

theorem Writes.replies {taken : Option Outgoing} (h : before.Writes taken after) :
    before.Replies none after := by
  refine h.undisturbed.replies ?_
  rw [h.said_eq_nil]
  rfl

theorem saidInLine_put (hopen : before.outbox.isOpen = true) (hopen' : outbox.isOpen = true)
    (hitems : outbox.items = before.outbox.items ++ [.reply reply]) (reader : ReaderPoint) :
    saidInLine before.line (Mailbox.line { before with outbox, reader }) = [.reply reply] := by
  rw [line, line, if_pos hopen, if_pos (by exact hopen'), hitems]
  exact List.drop_left

/-- A new reply gets in. -/
theorem replies_of_sent (hreading : before.reader = .reading)
    (h : before.outbox.offer (.reply reply) = (outbox, .sent)) :
    before.Replies (some reply) { before with outbox } := by
  intro _
  obtain ⟨hopen, hopen', hitems⟩ := Outbox.items_of_offer_sent h
  refine ⟨hopen, ?_⟩
  have hsaid := saidInLine_put hopen hopen' hitems before.reader
  rw [hsaid, hreading]
  rfl

/-- A new reply has to wait. -/
theorem replies_of_waits (hreading : before.reader = .reading)
    (h : before.outbox.offer (.reply reply) = (outbox, .waits ticket)) :
    before.Replies (some reply) { before with outbox, reader := .replying reply ticket } := by
  intro hopen
  have hsame := Outbox.items_of_offer_waits h
  have hline : Mailbox.line { before with outbox, reader := .replying reply ticket } =
      before.line := line_congr hsame
  refine ⟨hsame.1.symm.trans hopen, ?_⟩
  rw [hline, saidInLine, List.drop_length, hreading]
  rfl

/-- A reply that has waited gets in. -/
theorem replies_of_claimed (hwaits : before.reader = .replying reply ticket)
    (h : before.outbox.claim ticket (.reply reply) = (outbox, .sent)) :
    before.Replies none { before with outbox, reader := .reading } := by
  intro _
  obtain ⟨hopen, hopen', hitems⟩ := Outbox.items_of_claim_sent h
  refine ⟨hopen, ?_⟩
  rw [saidInLine_put hopen hopen' hitems, hwaits]
  rfl

theorem Replies.refl (mailbox : Mailbox) : mailbox.Replies none mailbox := by
  refine (Undisturbed.refl mailbox).replies ?_
  rw [saidInLine, List.drop_length]
  rfl

/-- A reader without a reply to give may end. -/
theorem replies_of_ends (hreading : before.reader = .reading) :
    before.Replies none { before with reader := .done } := by
  intro hopen
  refine ⟨hopen, ?_⟩
  have hline : Mailbox.line { before with reader := .done } = before.line := rfl
  rw [hline, saidInLine, List.drop_length, hreading]
  rfl

end Mailbox

/-! ### One event -/

/-- The reader of a link has taken some bytes, and what it handed out was replied to, or a reply
    waits for room. -/
def Link.Listens (chunk? : Option ByteArray) (before after : Link) : Prop :=
  ∃ reply?, before.frames.Hears chunk? reply? after.frames ∧
    before.mailbox.Replies reply? after.mailbox

namespace Session

variable {s m s' : Session} {id k : LinkId} {now : Instant} {chunk? : LinkId → Option ByteArray}

/-- The readers of all links have taken some bytes. -/
structure Listens (chunk? : LinkId → Option ByteArray) (s s' : Session) : Prop where
  length : s.links.length ≤ s'.links.length
  silent : ∀ k, s.links.length ≤ k → chunk? k = none
  link : ∀ k link', s'.links[k]? = some link' →
    Link.Listens (chunk? k) ((s.links[k]?).getD .unborn) link'

theorem said_eq {link' : Link} (h : s'.links[k]? = some link') :
    s.said s' k = saidInLine ((s.links[k]?).getD .unborn).mailbox.line link'.mailbox.line := by
  rw [said, mailbox_eq h, mailbox]
  cases s.links[k]? <;> rfl

/-- Operations that do not reply themselves leave readers alone. -/
theorem listens_of_moves {may : LinkId → Outgoing → Prop} {own own' : Option SendPoint}
    (hunheard : s.Unheard s') (hmoves : PostMoves may (s.post own) (s'.post own'))
    (hmay : ∀ k item, may k item → item.reply? = none) : s.Listens (fun _ => none) s' where
  length := hmoves.undisturbed.1
  silent _ _ := rfl
  link k link' hlink := by
    refine ⟨none, ?_, ?_⟩
    · rw [hunheard.frames_eq hlink]
      exact .refl _
    · have hlt : k < s'.links.length := (List.getElem?_eq_some_iff.mp hlink).1
      have hsame := hmoves.undisturbed.2 k hlt
      rw [origin_post] at hsame
      have hbox : (s'.post own').box k = link'.mailbox := mailbox_eq hlink
      rw [hbox] at hsame
      refine hsame.replies ?_
      rw [← said_eq hlink]
      exact List.filterMap_eq_nil_iff.mpr fun item hitem =>
        hmay k item (said_may (grows_of_moves hmoves) item hitem)

theorem listens_of_links (h : s'.links = s.links) : s.Listens (fun _ => none) s' := by
  have hmoves : PostMoves (fun _ _ => False) (s.post none) (s'.post none) := by
    rw [post_of_links h]
  exact listens_of_moves (unheard_of_frames (by rw [frames, frames, h])) hmoves fun _ _ h => h.elim

theorem Listens.refl (s : Session) : s.Listens (fun _ => none) s := listens_of_links rfl

/-- Something happens on one link. -/
theorem listens_of_within {step : Mailbox → Mailbox → Prop} (h : Within step id s s')
    (hothers : ∀ k, k ≠ id → s'.frames[k]? = s.frames[k]?)
    (hnone : ∀ k, k ≠ id → chunk? k = none) (hsilent : s.links.length ≤ id → chunk? id = none)
    (hself : ∀ link link', s.links[id]? = some link → s'.links[id]? = some link' →
      Link.Listens (chunk? id) link link') : s.Listens chunk? s' where
  length := Nat.le_of_eq h.count.symm
  silent k hk := by
    by_cases hkid : k = id
    · subst hkid
      exact hsilent hk
    · exact hnone k hkid
  link k link' hlink' := by
    have hlt : k < s.links.length := h.count ▸ (List.getElem?_eq_some_iff.mp hlink').1
    have hlink : s.links[k]? = some s.links[k] := List.getElem?_eq_getElem hlt
    rw [hlink, Option.getD_some]
    by_cases hkid : k = id
    · subst hkid
      exact hself _ _ hlink hlink'
    · have hframes := hothers k hkid
      have hmailbox := h.mailbox_of_ne hkid
      rw [frames, frames, List.getElem?_map, List.getElem?_map, hlink, hlink'] at hframes
      rw [mailbox_eq hlink, mailbox_eq hlink'] at hmailbox
      rw [hnone k hkid]
      refine ⟨none, ?_, ?_⟩
      · rw [show link'.frames = s.links[k].frames from Option.some.inj hframes]
        exact .refl _
      · rw [hmailbox]
        exact .refl _

/-- A link changes, but for its frames. -/
theorem listens_updateLink {change : Link → Link}
    (hframes : ∀ link, s.links[id]? = some link → (change link).frames = link.frames)
    (h : ∀ link, s.links[id]? = some link → link.mailbox.Replies none (change link).mailbox) :
    s.Listens (fun _ => none) (s.updateLink id change) := by
  cases hlink : s.links[id]? with
  | none =>
    rw [updateLink_eq_self hlink]
    exact .refl s
  | some link =>
    have hwithin : Within (Mailbox.Replies none) id s (s.updateLink id change) :=
      within_updateLink hlink (h link hlink)
    refine listens_of_within hwithin (fun k hk => ?_) (fun _ _ => rfl) (fun _ => rfl)
      fun found link' hfound hlink' => ?_
    · simp [frames, updateLink, hk.symm]
    · obtain rfl : link = found := Option.some.inj (hlink.symm.trans hfound)
      have hchanged : (s.updateLink id change).links[id]? = some (change link) := by
        simp [updateLink, hlink]
      obtain rfl : change link = link' := Option.some.inj (hchanged.symm.trans hlink')
      refine ⟨none, ?_, h link hlink⟩
      rw [hframes link hlink]
      exact .refl _

/-! #### Items that are handed out -/

theorem isReading_iff : s.IsReading id ↔ (s.mailbox id).reader = .reading := by
  constructor
  · rintro ⟨link, hlink, hreading⟩
    rw [mailbox_eq hlink]
    exact hreading
  · intro hreading
    cases hlink : s.links[id]? with
    | none =>
      rw [mailbox_of_none hlink] at hreading
      cases hreading
    | some link =>
      rw [mailbox_eq hlink] at hreading
      exact ⟨link, hlink, hreading⟩

theorem mailbox_transportClosed (s : Session) (id : LinkId) (now : Instant) :
    (s.transportClosed id now).mailbox = s.mailbox := by
  have hcrash : (s.markCrashed now).mailbox = s.mailbox :=
    congrArg Post.box (post_markCrashed s now none)
  unfold transportClosed
  split
  · split
    · exact hcrash
    · exact hcrash
    · exact hcrash
    · exact hcrash
    · rfl
  · rfl

theorem replies_endReader (h : s.IsReading id) (now : Instant) :
    (s.mailbox id).Replies none ((s.endReader id now).mailbox id) := by
  have hclosed : (s.transportClosed id now).mailbox id = s.mailbox id :=
    congrFun (mailbox_transportClosed s id now) id
  have hreading : (s.transportClosed id now).IsReading id := by
    rw [isReading_iff, hclosed]
    exact isReading_iff.mp h
  obtain ⟨link, hlink, hreading⟩ := hreading
  rw [endReader, mailbox_updateLink_self hlink, Link.stopReader, hreading, ← hclosed,
    mailbox_eq hlink]
  exact Mailbox.replies_of_ends hreading

theorem replies_sendReply (h : s.IsReading id) (reply : Json) :
    (s.mailbox id).Replies (some reply) ((s.sendReply id reply).mailbox id) := by
  obtain ⟨link, hlink, hreading⟩ := h
  have hreads : link.mailbox.reader = .reading := hreading
  unfold sendReply
  rw [hlink]
  dsimp only
  split
  next outbox ticket hoffer =>
    rw [setReader, updateOutbox, updateLink_updateLink, mailbox_updateLink_self hlink,
      mailbox_eq hlink]
    exact Mailbox.replies_of_waits hreads (Outbox.offer_bare hoffer)
  next outbox sending hwaits hoffer =>
    rw [updateOutbox, mailbox_updateLink_self hlink, mailbox_eq hlink]
    cases sending with
    | sent => exact Mailbox.replies_of_sent hreads (Outbox.offer_bare hoffer)
    | refused =>
      -- Nobody hears a reply on a link that can speak no more.
      obtain ⟨hclosed, rfl⟩ := Outbox.isOpen_of_refused hoffer
      exact fun hopen => absurd (hclosed.symm.trans hopen) Bool.false_ne_true
    | waits ticket => exact absurd rfl (hwaits ticket)

theorem replies_handleItem (h : s.IsReading id) (now : Instant) (item : FrameReader.Item) :
    (s.mailbox id).Replies item.reply? ((s.handleItem id now item).mailbox id) := by
  cases item with
  | ended => exact replies_endReader h now
  | failed reason => exact replies_endReader h now
  | event event =>
    cases event with
    | frame frame =>
      simp only [handleItem, handleEvent, FrameReader.Item.reply?, FrameEvent.request?]
      cases Message.classify frame.value with
      | error error => exact .refl _
      | ok message =>
        cases message with
        | request requestId method params =>
          have hactive : IsReading { s with active := true } id := h
          exact replies_sendReply hactive (replyToServer requestId method params)
        | response responseId outcome =>
          simp only [dispatch]
          split <;> exact .refl _
        | notification method params => exact .refl _
    | error error =>
      cases error with
      | unexpectedEnd => exact replies_endReader h now
      | missingLength | invalidLength | oversized | headerTooLong | invalidJson => exact .refl _

/-! #### What is left of the frames -/

theorem frames_endReader (s : Session) (id : LinkId) (now : Instant) :
    (s.endReader id now).frames = s.frames := by
  refine (frames_updateLink id frames_stopReader).trans ?_
  unfold transportClosed
  split
  · split
    · exact frames_markCrashed now
    · exact frames_markCrashed now
    · exact frames_markCrashed now
    · exact frames_markCrashed now
    · rfl
  · rfl

theorem frames_sendReply (s : Session) (id : LinkId) (reply : Json) :
    (s.sendReply id reply).frames = s.frames := by
  unfold sendReply
  split
  · rfl
  · split
    · rw [setReader]
      refine (frames_updateLink id ?_).trans (frames_updateOutbox id _)
      exact fun _ => rfl
    · exact frames_updateOutbox id _

theorem frames_handleItem (s : Session) (id : LinkId) (now : Instant) (item : FrameReader.Item) :
    (s.handleItem id now item).frames = s.frames := by
  cases item with
  | ended => exact frames_endReader s id now
  | failed reason => exact frames_endReader s id now
  | event event =>
    cases event with
    | frame frame =>
      simp only [handleItem, handleEvent]
      split
      next message _ =>
        cases message with
        | request requestId method params => exact frames_sendReply _ id _
        | response responseId outcome =>
          simp only [dispatch]
          split <;> rfl
        | notification method params => rfl
      next => rfl
    | error error =>
      cases error with
      | unexpectedEnd => exact frames_endReader s id now
      | missingLength | invalidLength | oversized | headerTooLong | invalidJson => rfl

/-- A reader goes on with what it has heard. -/
theorem listens_advanceReader {link : Link} (hlink : s.links[id]? = some link)
    (hreading : link.reader = .reading) (now : Instant)
    {read : Option FrameReader.Item × FrameReader} (hnone : ∀ k, k ≠ id → chunk? k = none)
    (hears : link.frames.Hears (chunk? id) (read.1.bind FrameReader.Item.reply?) read.2) :
    s.Listens chunk? (s.advanceReader id now read) := by
  have hwithin := hears_advanceReader ⟨link, hlink, hreading⟩ now read
  -- First the frames are put back, and then the item is looked at.
  let m := s.updateLink id fun link => { link with frames := read.2 }
  have hm : m.links[id]? = some { link with frames := read.2 } := by simp [m, updateLink, hlink]
  have hbefore : m.mailbox id = link.mailbox := (mailbox_eq hm).trans rfl
  have hframes : (s.advanceReader id now read).frames = m.frames := by
    unfold advanceReader
    split
    · exact frames_handleItem m id now _
    · rfl
  refine listens_of_within hwithin (fun k hk => ?_) hnone (fun hle => ?_) ?_
  · rw [hframes, frames, frames, List.getElem?_map, List.getElem?_map]
    simp [m, updateLink, hk.symm]
  · rw [List.getElem?_eq_none_iff.mpr hle] at hlink
    cases hlink
  · intro found link' hfound hlink'
    obtain rfl : link = found := Option.some.inj (hlink.symm.trans hfound)
    refine ⟨read.1.bind FrameReader.Item.reply?, ?_, ?_⟩
    · have hsame : link'.frames = read.2 := by
        have hunheard := (unheard_of_frames hframes).frames_eq hlink'
        rwa [hm] at hunheard
      rwa [hsame]
    · rw [← mailbox_eq hlink', ← hbefore]
      obtain ⟨item?, frames⟩ := read
      cases item? with
      | none =>
        show (m.mailbox id).Replies none (m.mailbox id)
        exact .refl _
      | some item =>
        have hisReading : m.IsReading id := ⟨_, hm, hreading⟩
        exact replies_handleItem hisReading now item

/-! #### Any event -/

/-- The bytes that an event lets the reader of a link take. -/
def heard? (s : Session) (k : LinkId) : SessionEvent → Option ByteArray
  | .hear id said => if k = id ∧ (s.links[k]?).any Link.wantsRead then said.chunk? else none
  | _ => none

theorem listens_hear (s : Session) (id : LinkId) (now : Instant) (said : SourceRead) :
    s.Listens (s.heard? · (.hear id said)) (s.hear id now said) := by
  have hdeaf (h : (s.links[id]?).any Link.wantsRead = false) :
      s.Listens (s.heard? · (.hear id said)) s := by
    have hnone : (s.heard? · (.hear id said)) = fun _ => none := by
      funext k
      refine if_neg ?_
      rintro ⟨rfl, hwants⟩
      rw [h] at hwants
      cases hwants
    rw [hnone]
    exact .refl s
  unfold hear
  split
  next link hlink =>
    split
    next hwants =>
      have hself : s.heard? id (.hear id said) = said.chunk? :=
        if_pos ⟨rfl, by rw [hlink]; exact hwants⟩
      have hreading : link.reader = .reading := by
        unfold Link.wantsRead at hwants
        split at hwants
        next hreading => exact hreading
        next => cases hwants
      refine listens_advanceReader hlink hreading now (fun k hk => if_neg fun h => hk h.1) ?_
      rw [hself]
      exact link.frames.hears_absorb said
    next hwants => exact hdeaf (by rw [hlink]; simpa using hwants)
  next hlink => exact hdeaf (by rw [hlink]; rfl)

theorem listens_stepReader (s : Session) (id : LinkId) (now : Instant) :
    s.Listens (fun _ => none) (s.stepReader id now).1 := by
  unfold stepReader
  split
  next => exact .refl s
  next link hlink =>
    split
    next => exact .refl s
    next reply ticket hreplying =>
      split
      next => exact .refl s
      next outbox sending hwaits hclaim =>
        -- A reply that has waited gets in, or nobody hears it any more.
        rw [setReader, updateOutbox, updateLink_updateLink]
        refine listens_updateLink (fun _ _ => rfl) fun found hfound => ?_
        obtain rfl : link = found := Option.some.inj (hlink.symm.trans hfound)
        cases sending with
        | sent => exact Mailbox.replies_of_claimed hreplying (Outbox.claim_bare hclaim)
        | refused =>
          obtain ⟨hclosed, rfl⟩ := Outbox.isOpen_of_claim_refused hclaim
          exact fun hopen => absurd (hclosed.symm.trans hopen) Bool.false_ne_true
        | waits ticket => exact absurd rfl (hwaits ticket)
    next hreading =>
      split
      next => exact .refl s
      next =>
        exact listens_advanceReader hlink hreading now (fun _ _ => rfl) link.frames.hears_next?

theorem listens_undergo (now : Instant) (event : SessionEvent) (s : Session) :
    s.Listens (s.heard? · event) (s.undergo now event) := by
  cases event with
  | hear id said => exact listens_hear s id now said
  | read id => exact listens_stepReader s id now
  | write id =>
    simp only [undergo, SessionRun.next, SessionRun.withSession, stepWriter]
    split
    next => exact .refl s
    next link hlink =>
      refine listens_updateLink (fun found hfound => ?_) fun found hfound => ?_
      · obtain rfl : link = found := Option.some.inj (hlink.symm.trans hfound)
        exact link.frames_stepWriter
      · obtain rfl : link = found := Option.some.inj (hlink.symm.trans hfound)
        exact link.writes_stepWriter.replies
  | written id count =>
    refine listens_updateLink (fun link _ => ?_) fun link _ => ?_
    · unfold Link.written
      split <;> rfl
    · unfold Link.written
      split
      · exact .refl _
      · exact .refl _
  | writeFails id =>
    refine listens_updateLink (fun _ _ => rfl) fun link _ => ?_
    exact fun hopen => absurd hopen Bool.false_ne_true
  | processEnds id => exact listens_updateLink (fun _ _ => rfl) fun link _ => .refl _
  | launched result =>
    simp only [undergo, SessionRun.next]
    split
    · exact listens_of_links rfl
    · exact .refl s
  | «begin» | step | wait => exact .refl s

end Session

/-! ### What is still due -/

/-- The replies that a link still has to give: the one that waits for room, and those to what is
    queued. -/
def Link.due (link : Link) : List Json := link.reader.reply?.toList ++ repliesTo link.frames.queued

theorem Link.due_of_wantsRead {link : Link} (h : link.wantsRead = true) : link.due = [] := by
  unfold Link.wantsRead at h
  split at h
  next hreading =>
    have hqueued : link.frames.queued = [] := List.isEmpty_iff.mp (Bool.and_eq_true_iff.mp h).1
    rw [due, hreading, hqueued]
    rfl
  next => cases h

/-- A link has taken some bytes, and given the replies that they call for, but for those that are
    due. -/
structure Link.Replied (chunks : List ByteArray) (replies : List Json) (link : Link) : Prop where
  decoder : link.frames.decoder = (FrameDecoder.feedAll {} chunks).1
  replies : replies ++ link.due = repliesTo (FrameDecoder.feedAll {} chunks).2

theorem FrameDecoder.feedAll_append (d : FrameDecoder) (chunks more : List ByteArray) :
    d.feedAll (chunks ++ more) = (((d.feedAll chunks).1.feedAll more).1,
      (d.feedAll chunks).2 ++ ((d.feedAll chunks).1.feedAll more).2) := by
  induction chunks generalizing d with
  | nil => rfl
  | cons chunk rest ih => simp only [List.cons_append, feedAll, ih, List.append_assoc]

theorem Link.Replied.listens {chunks : List ByteArray} {replies : List Json}
    {chunk? : Option ByteArray} {before after : Link} (h : before.Replied chunks replies)
    {reply? : Option Json} (hears : before.frames.Hears chunk? reply? after.frames)
    (hsaid : repliesAmong (saidInLine before.mailbox.line after.mailbox.line) ++
      after.reader.reply?.toList = before.reader.reply?.toList ++ reply?.toList) :
    after.Replied (chunks ++ chunk?.toList)
      (replies ++ repliesAmong (saidInLine before.mailbox.line after.mailbox.line)) := by
  generalize repliesAmong (saidInLine before.mailbox.line after.mailbox.line) = said at hsaid ⊢
  obtain ⟨hdecoder, hreplies⟩ := h
  constructor
  · rw [hears.decoder, hdecoder, FrameDecoder.feedAll_append]
  · -- What has got in or waits now has waited before, or was handed out.
    calc replies ++ said ++ after.due
        = replies ++ (said ++ after.reader.reply?.toList) ++ repliesTo after.frames.queued := by
          simp only [Link.due, List.append_assoc]
      _ = replies ++ before.reader.reply?.toList ++
            (reply?.toList ++ repliesTo after.frames.queued) := by
          rw [hsaid]
          simp only [List.append_assoc]
      _ = replies ++ before.due ++ repliesTo (before.frames.decoder.feedAll chunk?.toList).2 := by
          rw [← hears.replies]
          simp only [Link.due, List.append_assoc]
      _ = repliesTo (FrameDecoder.feedAll {} (chunks ++ chunk?.toList)).2 := by
          rw [hreplies, hdecoder, FrameDecoder.feedAll_append, repliesTo_append]

/-- All links that can speak have replied, but for what is due. -/
structure Session.Replied (chunks : LinkId → List ByteArray) (replies : LinkId → List Json)
    (s : Session) : Prop where
  link : ∀ (k : LinkId) (link : Link), s.links[k]? = some link → link.outbox.isOpen = true →
    link.Replied (chunks k) (replies k)
  unborn : ∀ k, s.links.length ≤ k → chunks k = [] ∧ replies k = []

theorem Session.Replied.listens {chunks : LinkId → List ByteArray} {replies : LinkId → List Json}
    {chunk? : LinkId → Option ByteArray} {s s' : Session} (h : s.Replied chunks replies)
    (hlistens : s.Listens chunk? s') :
    s'.Replied (fun k => chunks k ++ (chunk? k).toList)
      (fun k => replies k ++ repliesAmong (s.said s' k)) where
  link k link' hlink' hopen := by
    obtain ⟨reply?, hears, hmailbox⟩ := hlistens.link k link' hlink'
    obtain ⟨hbefore, hsaid⟩ := hmailbox hopen
    have hreplied : Link.Replied (chunks k) (replies k) ((s.links[k]?).getD .unborn) := by
      cases hlink : s.links[k]? with
      | some link =>
        rw [hlink] at hbefore
        exact h.link k link hlink hbefore
      | none =>
        obtain ⟨hchunks, hreplies⟩ := h.unborn k (List.getElem?_eq_none_iff.mp hlink)
        rw [hchunks, hreplies]
        exact ⟨rfl, rfl⟩
    rw [said_eq hlink']
    exact hreplied.listens hears hsaid
  unborn k hk := by
    have hle := Nat.le_trans hlistens.length hk
    obtain ⟨hchunks, hreplies⟩ := h.unborn k hle
    rw [hchunks, hreplies, hlistens.silent k hle, said, line_of_le hk, saidInLine,
      Option.getD_none, List.drop_nil]
    exact ⟨rfl, rfl⟩

/-! ### Courses -/

namespace SessionTask

variable {task task' : SessionTask} {now : Instant} {s : Session}

/-- An operation that waits to say something waits to say something of its own. -/
def OwnWords (task : SessionTask) : Prop :=
  ∀ send, task.send? = some send → send.item.reply? = none

theorem ownWords_task (call : SessionCall) : call.task.OwnWords := by
  cases call <;> exact nofun

theorem OwnWords.of_utters (h : task.OwnWords) {item : Outgoing} (hitem : task.Utters item) :
    item.reply? = none := by
  obtain ⟨send, hsend, rfl⟩ | ⟨id, call, -, rfl⟩ | hkind := hitem
  · exact h send hsend
  · rfl
  · cases task with
    | ensure => obtain rfl | ⟨id, hello, rfl⟩ := hkind <;> rfl
    | stop => obtain rfl | rfl | ⟨id, rfl⟩ := hkind <;> rfl
    | notify point =>
      cases point with
      | starting notice =>
        obtain rfl := hkind
        rfl
      | sending => exact hkind.elim
    | ask | reset | checkAlive => exact hkind.elim

theorem OwnWords.moves (h : task.OwnWords) (now : Instant) (s : Session) :
    PostMoves (fun _ item => item.reply? = none) (s.post task.send?)
      ((task.step now s).1.post ((task.step now s).2.unsent task.send? send?)) :=
  task.post_step now s fun _ _ => h.of_utters

theorem OwnWords.moved (h : task.OwnWords) (hstep : (task.step now s).2 = .moved task') :
    task'.OwnWords := by
  have hown := PostMoves.own_may (h.moves now s) h
  rw [hstep] at hown
  exact hown

end SessionTask

/-- The bytes that a moment lets the reader of a link take. -/
def CourseMoment.heard? (k : LinkId) (moment : CourseMoment) : Option ByteArray :=
  match moment.2 with
  | .occur event => moment.1.shared.heard? k event
  | _ => none

/-- The bytes that the reader of a link has taken, in chunks. -/
def chunksIn (past : List CourseMoment) (k : LinkId) : List ByteArray :=
  past.filterMap (CourseMoment.heard? k)

/-- The replies that were put into the outbox of a link. -/
def repliesIn (past : List CourseMoment) (k : LinkId) : List Json :=
  past.flatMap fun moment =>
    repliesAmong (moment.1.shared.said (sessionRules.next moment.1 moment.2).shared k)

theorem chunksIn_concat (past : List CourseMoment) (moment : CourseMoment) :
    chunksIn (past ++ [moment]) = fun k => chunksIn past k ++ (moment.heard? k).toList := by
  funext k
  rw [chunksIn, List.filterMap_append]
  cases hheard : moment.heard? k <;> simp [chunksIn, hheard]

theorem repliesIn_concat (past : List CourseMoment) (moment : CourseMoment) :
    repliesIn (past ++ [moment]) = fun k => repliesIn past k ++
      repliesAmong (moment.1.shared.said (sessionRules.next moment.1 moment.2).shared k) := by
  funext k
  simp [repliesIn]

namespace SessionCourse

variable {past : List CourseMoment} {course : SessionCourse}

/-- What was heard in a course was replied to, and its operations do not reply. -/
structure Replied (past : List CourseMoment) (course : SessionCourse) : Prop where
  shared : course.shared.Replied (chunksIn past) (repliesIn past)
  ownWords : ∀ standing ∈ course.tasks, ∀ task, standing.point? = some task → task.OwnWords

theorem replied_next (h : Replied past course) (event : CourseEvent) :
    Replied (past ++ [(course, event)]) (sessionRules.next course event) := by
  have hput (i : Nat) (shared : Session) {standing : Standing SessionTask (Option SessionReply)}
      (hnew : ∀ task, standing.point? = some task → task.OwnWords) :
      ∀ other ∈ (course.put i shared standing).tasks, ∀ task, other.point? = some task →
        task.OwnWords := Crowd.forall_put h.ownWords i shared hnew
  have hwords {i : Nat} {task : SessionTask} (hi : course.task? i = some task) : task.OwnWords :=
    h.ownWords _ (Crowd.mem_of_task? hi) task rfl
  suffices hnext : course.shared.Listens (fun k => CourseMoment.heard? k (course, event))
      (sessionRules.next course event).shared ∧
      ∀ standing ∈ (sessionRules.next course event).tasks, ∀ task, standing.point? = some task →
        task.OwnWords by
    refine ⟨?_, hnext.2⟩
    rw [chunksIn_concat, repliesIn_concat]
    exact h.shared.listens hnext.1
  have hmoves := sessionRules.next_moves course event
  generalize sessionRules.next course event = course' at hmoves
  cases hmoves with
  | blocks | misses | waits => exact ⟨.refl _, h.ownWords⟩
  | begins call =>
    refine ⟨.refl _, Crowd.forall_concat h.ownWords ?_⟩
    rintro _ ⟨⟩
    exact SessionTask.ownWords_task call
  | moves i input task task' shared stands step =>
    have hown := hwords stands
    have hstep : (task.step course.now course.shared) = (shared, .moved task') := step
    have hpost := hown.moves course.now course.shared
    have hunheard := task.unheard_step course.now course.shared
    rw [hstep] at hpost hunheard
    refine ⟨Session.listens_of_moves hunheard hpost fun _ _ h => h, hput i shared ?_⟩
    rintro _ ⟨⟩
    exact hown.moved (congrArg Prod.snd hstep)
  | finishes i input task result shared stands step =>
    have hstep : (task.step course.now course.shared) = (shared, .finished result) := step
    have hpost := (hwords stands).moves course.now course.shared
    have hunheard := task.unheard_step course.now course.shared
    rw [hstep] at hpost hunheard
    exact ⟨Session.listens_of_moves hunheard hpost fun _ _ h => h, hput i shared nofun⟩
  | givesUp i task stands =>
    have hunheard := Session.unheard_of_frames (task.frames_cancel course.shared)
    have hpost : PostMoves (fun _ _ => False) (course.shared.post task.send?) _ :=
      task.post_cancel course.shared
    exact ⟨Session.listens_of_moves hunheard hpost fun _ _ h => h.elim, hput i _ nofun⟩
  | occurs event => exact ⟨Session.listens_undergo course.now event course.shared, h.ownWords⟩

theorem replied_after (settings : SessionSettings) (hello : Except String ClientHello)
    (events : List CourseEvent) :
    Replied (sessionRules.history (start settings hello) events)
      (sessionRules.after (start settings hello) events) := by
  refine sessionRules.history_induction (motive := Replied) ⟨⟨?_, ?_⟩, ?_⟩
    (fun _ _ event h => replied_next h event) events
  · rintro k link ⟨⟩
  · exact fun k _ => ⟨rfl, rfl⟩
  · rintro standing ⟨⟩

/-- The requests that the server of a link has made, as the bytes that were taken spell them. -/
def requestsIn (past : List CourseMoment) (k : LinkId) : List ServerRequest :=
  (FrameDecoder.report (chunksIn past k)).1.filterMap FrameEvent.request?

/-- **Every request of a server is replied to once, in order.**  Any course of a session, whatever
    its servers send and however it is cut into chunks: as long as a link can speak, the replies
    that were put into its outbox, and those that are still due, are one for each request that the
    bytes spell, in the order of the requests; nothing else that comes is replied to. Nothing is due
    once the reader waits for more. And each of these replies, as it is written, is read again as a
    response to the request, with the outcome that its method asks for. -/
theorem replies_after (settings : SessionSettings) (hello : Except String ClientHello)
    (events : List CourseEvent) (k : LinkId) :
    let past := sessionRules.history (start settings hello) events
    let course : SessionCourse := sessionRules.after (start settings hello) events
    (∀ link, course.shared.links[k]? = some link → link.outbox.isOpen = true →
      repliesIn past k ++ link.due = (requestsIn past k).map ServerRequest.reply ∧
        (link.wantsRead = true → repliesIn past k = (requestsIn past k).map ServerRequest.reply)) ∧
      ∀ request ∈ requestsIn past k, request.Answered := by
  intro past course
  refine ⟨fun link hlink hopen => ?_, fun request hrequest => ?_⟩
  · have hreplied := (replied_after settings hello events).shared.link k link hlink hopen
    have hreplies : repliesIn past k ++ link.due = (requestsIn past k).map ServerRequest.reply := by
      rw [requestsIn, List.map_filterMap]
      exact hreplied.replies
    refine ⟨hreplies, fun hwants => ?_⟩
    rwa [Link.due_of_wantsRead hwants, List.append_nil] at hreplies
  · obtain ⟨event, -, hevent⟩ := List.mem_filterMap.mp hrequest
    exact ServerRequest.answered_of_request? hevent

/-- Before the server answers the first request, it sends a response to nobody, something that is no
    message, and a request. -/
def curiousServer : List CourseEvent :=
  let said (text : String) : CourseEvent := .occur (.hear 0 (.bytes (frameBytes text.toUTF8)))
  [.begin .ensure, .step 0 (), .step 0 (), .occur (.launched (.ok .absent)), .step 0 (),
    .step 0 (), said "\x7b\"id\":7,\"result\":0\x7d", said "[]",
    said "\x7b\"id\":\"a\",\"method\":\"workspace/configuration\"\x7d"]

/-- It gets one reply, to its own id. -/
theorem replies_curiousServer :
    let begun := start {} (.ok ⟨"file:///ws", "ws"⟩)
    let past := sessionRules.history begun curiousServer
    let course : SessionCourse := sessionRules.after begun curiousServer
    (repliesIn past 0).map Json.compact =
        ["\x7b\"id\":\"a\",\"jsonrpc\":\"2.0\",\"result\":[]\x7d"] ∧
      ∃ link, course.shared.links[0]? = some link ∧ link.outbox.isOpen = true ∧
        link.wantsRead = true ∧
        repliesIn past 0 = (requestsIn past 0).map ServerRequest.reply := by
  intro begun past course
  have hready : (course.shared.links[0]?).any
      (fun link => link.outbox.isOpen && link.wantsRead) = true := by decide +kernel
  cases hlink : course.shared.links[0]? with
  | none =>
    rw [hlink] at hready
    cases hready
  | some link =>
    rw [hlink] at hready
    obtain ⟨hopen, hwants⟩ := Bool.and_eq_true_iff.mp hready
    have hafter := replies_after {} (.ok ⟨"file:///ws", "ws"⟩) curiousServer 0
    have hreplies := hafter.1 link hlink hopen
    exact ⟨by decide +kernel, link, rfl, hopen, hwants, hreplies.2 hwants⟩

end SessionCourse
end SymbolSearch
