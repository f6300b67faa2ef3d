import SymbolSearch.Proofs.Json.Decoding
import SymbolSearch.Rpc.Message

/-!
# Envelopes that say what they are

An envelope does not name its kind: which of its fields are there tells requests, responses and
notifications apart. A field that is absent is left out of the envelope, and one that is `null` is
not, so that a reader can keep the two apart.

* `Json.record?_ofPresent` — the record of an object shows just the fields that are present.
* `MessageId.Fits` — the ids that have room in an envelope.
* `Message.classify_encodeRequest_iff` and its siblings — what each envelope is taken for.
* `Message.envelopes_classify` — all that a client sends is taken for what it is.
-/

namespace SymbolSearch

namespace Json

/-- The record of an object shows the fields that the object was made of. -/
theorem record?_ofFields {fields : List (String × Json)} (hnames : (fields.map Prod.fst).Nodup)
    (names : List String) :
    (ofFields fields).record? names = some ⟨fun name => fields.lookup name, false⟩ := by
  obtain ⟨sorted, hsorted, hascending, hlookup⟩ := exists_ofFields_lookup hnames
  have hdistinct : (sorted.map Prod.fst).Nodup :=
    List.pairwise_map.mpr (hascending.imp fun hlt => Std.ne_of_lt hlt)
  have honce : (names.all fun name => atMostOnce name sorted) = true :=
    List.all_eq_true.mpr fun name _ => atMostOnce_of_nodup hdistinct name
  rw [hsorted, record?, objectRecord?, if_pos honce]
  simp only [hlookup]
  rintro items ⟨⟩

/-- The record of an object shows the fields that are present. -/
theorem record?_ofPresent {fields : List (String × Option Json)}
    (hnames : (fields.map Prod.fst).Nodup) (names : List String) :
    (ofPresent fields).record? names = some ⟨fun name => (fields.lookup name).join, false⟩ := by
  have hpresent : ofPresent fields = ofFields (present fields) := rfl
  rw [hpresent, record?_ofFields (nodup_present hnames)]
  simp only [lookup_present hnames]

end Json

/-! ### Ids -/

namespace MessageId

/-- Whether an id has room in an envelope: a number must fit 64 bits, with its sign. -/
def Fits : MessageId → Prop
  | .number value => Int64.minValue.toInt ≤ value ∧ value ≤ Int64.maxValue.toInt
  | .string _ => True

instance (id : MessageId) : Decidable id.Fits :=
  match id with
  | .number value =>
    inferInstanceAs (Decidable (Int64.minValue.toInt ≤ value ∧ value ≤ Int64.maxValue.toInt))
  | .string _ => inferInstanceAs (Decidable True)

theorem toJson_ne_null (id : MessageId) : id.toJson ≠ .null := by
  cases id <;> exact nofun

theorem fromJson?_toJson (id : MessageId) :
    fromJson? id.toJson = if id.Fits then some id else none := by
  cases id with
  | string text => rfl
  | number value =>
    show ((Json.int value).int64?).map MessageId.number = _
    rw [Json.int64?, Json.int, Json.int?, Option.bind_some]
    by_cases hfits : Int64.minValue.toInt ≤ value ∧ value ≤ Int64.maxValue.toInt
    · rw [if_pos hfits, if_pos (by exact hfits)]
      rfl
    · rw [if_neg hfits, if_neg (by exact hfits)]
      rfl

/-- Whatever was read as an id has room. -/
theorem fits_of_fromJson? {json : Json} {id : MessageId} (h : fromJson? json = some id) :
    id.Fits := by
  unfold fromJson? at h
  split at h
  next text =>
    obtain rfl := Option.some.inj h
    exact trivial
  next =>
    obtain ⟨value, hvalue, rfl⟩ := Option.map_eq_some_iff.mp h
    obtain ⟨found, -, hread⟩ := Option.bind_eq_some_iff.mp hvalue
    obtain ⟨hfits, hfound⟩ := Option.ite_none_right_eq_some.mp hread
    obtain rfl := Option.some.inj hfound
    exact hfits

theorem isTidy_toJson {id : MessageId} (h : id.Fits) (depth : Nat) : id.toJson.IsTidy depth := by
  cases id with
  | string text => exact .string text
  | number value =>
    have hmin : Int64.minValue.toInt = -2 ^ 63 := rfl
    have hmax : Int64.maxValue.toInt = 2 ^ 63 - 1 := rfl
    rw [Fits, hmin, hmax] at h
    refine .int (decide_eq_true ?_)
    show -2 ^ 63 ≤ value ∧ value < 2 ^ 64
    omega

theorem fits_number_natCast (n : Nat) :
    (MessageId.number n).Fits ↔ (n : Int) ≤ Int64.maxValue.toInt := by
  have hmin : Int64.minValue.toInt = -2 ^ 63 := rfl
  rw [Fits, hmin]
  omega

end MessageId

/-! ### Errors -/

namespace ResponseError

/-- Whether an error has room in an envelope, and all of it can be seen there. -/
structure Fits (error : ResponseError) : Prop where
  code : Int64.minValue.toInt ≤ error.code ∧ error.code ≤ Int64.maxValue.toInt
  /-- Data that is `null` cannot be told from none. -/
  data : error.data ≠ some .null

theorem toJson_ne_null (error : ResponseError) : error.toJson ≠ .null := nofun

theorem fromJson?_toJson {error : ResponseError} (h : error.Fits) :
    fromJson? error.toJson = some error := by
  obtain ⟨code, text, data⟩ := error
  have hcode : (Json.int code).int64? = some code := by
    rw [Json.int64?, Json.int, Json.int?, Option.bind_some, if_pos h.code]
  rw [fromJson?, toJson, Json.record?_ofPresent (by simp)]
  cases data with
  | none => simp [Record.required, Record.defaulted, Json.lookup_cons, hcode, Json.string?]
  | some json =>
    have hdata : Json.orNull? some json = some (some json) :=
      Json.orNull?.eq_2 some json fun hnull => h.data (congrArg some hnull)
    simp [Record.required, Record.defaulted, Json.lookup_cons, hcode, Json.string?, hdata]

end ResponseError

/-! ### Envelopes -/

namespace Record

variable {α : Type} {record : Record} {name : String} {decode : Decoder α} {encode : α → Json}

/-- A field that is left out if there is nothing to say, and never `null`, comes back. -/
theorem optional_of_decodes {value : Option α} (hlookup : record.lookup name = value.map encode)
    (hnamed : record.positional = false) (hnull : ∀ a, encode a ≠ .null)
    (hdecode : ∀ a ∈ value, decode (encode a) = some a) :
    record.optional name decode = some value := by
  cases value with
  | none =>
    rw [Option.map_none] at hlookup
    simp only [optional, hlookup, hnamed, Bool.false_eq_true, if_false]
  | some a =>
    rw [Option.map_some] at hlookup
    simp only [optional, hlookup, Json.orNull?.eq_2 decode (encode a) (hnull a),
      hdecode a rfl, Option.map_some]

theorem optional_eq_none {a : α} (hlookup : record.lookup name = some (encode a))
    (hnull : encode a ≠ .null) (hdecode : decode (encode a) = none) :
    record.optional name decode = none := by
  simp only [optional, hlookup, Json.orNull?.eq_2 decode (encode a) hnull, hdecode, Option.map_none]

theorem decodes_of_optional {a : α} (h : record.optional name decode = some (some a)) :
    ∃ json, decode json = some a := by
  unfold optional at h
  split at h
  next json _ =>
    unfold Json.orNull? at h
    split at h
    next => cases h
    next =>
      obtain ⟨found, hfound, hsome⟩ := Option.map_eq_some_iff.mp h
      obtain rfl := Option.some.inj hsome
      exact ⟨json, hfound⟩
  next => split at h <;> cases h

end Record

namespace Envelope

/-- An envelope as it is sent: what it does not have is left out. -/
def toJson (envelope : Envelope) : Json :=
  .ofPresent [("error", envelope.error.map ResponseError.toJson),
    ("id", envelope.id.map MessageId.toJson), ("jsonrpc", envelope.version.map .string),
    ("method", envelope.method.map .string), ("params", envelope.params),
    ("result", envelope.result)]

variable {envelope : Envelope}

/-- The record of an envelope shows its parts. -/
theorem exists_record (envelope : Envelope) (names : List String) :
    ∃ record, envelope.toJson.record? names = some record ∧ record.positional = false ∧
      record.lookup "error" = envelope.error.map ResponseError.toJson ∧
      record.lookup "id" = envelope.id.map MessageId.toJson ∧
      record.lookup "jsonrpc" = envelope.version.map .string ∧
      record.lookup "method" = envelope.method.map .string ∧
      record.lookup "params" = envelope.params ∧ record.lookup "result" = envelope.result := by
  refine ⟨_, Json.record?_ofPresent (by simp) names, rfl, ?_⟩
  simp [Json.lookup_cons]

/-- **What an envelope has is what is read from it**, be it absent, `null` or anything else. -/
theorem fromJson?_toJson (hid : ∀ id ∈ envelope.id, id.Fits)
    (herror : ∀ error ∈ envelope.error, error.Fits) :
    fromJson? envelope.toJson = some envelope := by
  obtain ⟨record, hrecord, hnamed, hlerror, hlid, hlversion, hlmethod, hlparams, hlresult⟩ :=
    envelope.exists_record ["jsonrpc", "id", "method", "params", "result", "error"]
  have hversion := Record.optional_of_decodes hlversion hnamed (fun _ => nofun) fun _ _ =>
    show Json.string? _ = _ from rfl
  have hmethod := Record.optional_of_decodes hlmethod hnamed (fun _ => nofun) fun _ _ =>
    show Json.string? _ = _ from rfl
  have hid : record.optional "id" MessageId.fromJson? = some envelope.id :=
    Record.optional_of_decodes hlid hnamed MessageId.toJson_ne_null fun id hmem => by
      rw [MessageId.fromJson?_toJson, if_pos (hid id hmem)]
  have herror : record.optional "error" ResponseError.fromJson? = some envelope.error :=
    Record.optional_of_decodes hlerror hnamed ResponseError.toJson_ne_null fun error hmem =>
      ResponseError.fromJson?_toJson (herror error hmem)
  simp only [fromJson?, hrecord, hversion, hid, hmethod, herror, hlparams, hlresult,
    Option.bind_eq_bind, Option.bind_some, Option.pure_def]

/-- An id without room is not read, and nothing else of the envelope either. -/
theorem fromJson?_of_not_fits {id : MessageId} (hid : envelope.id = some id) (h : ¬id.Fits) :
    fromJson? envelope.toJson = none := by
  obtain ⟨record, hrecord, hnamed, -, hlid, hlversion, -⟩ :=
    envelope.exists_record ["jsonrpc", "id", "method", "params", "result", "error"]
  have hversion := Record.optional_of_decodes hlversion hnamed (fun _ => nofun) fun _ _ =>
    show Json.string? _ = _ from rfl
  rw [hid, Option.map_some] at hlid
  have hnone : record.optional "id" MessageId.fromJson? = none :=
    Record.optional_eq_none hlid id.toJson_ne_null (by rw [MessageId.fromJson?_toJson, if_neg h])
  simp only [fromJson?, hrecord, hversion, hnone, Option.bind_eq_bind, Option.bind_some,
    Option.bind_none]

theorem fits_of_fromJson? {json : Json} (h : fromJson? json = some envelope) :
    ∀ id ∈ envelope.id, id.Fits := by
  intro id hid
  simp only [fromJson?, Option.bind_eq_bind, Option.bind_eq_some_iff, Option.pure_def] at h
  obtain ⟨record, -, version, -, found, hfound, method, -, error, -, henvelope⟩ := h
  obtain rfl := Option.some.inj henvelope
  rw [show found = some id from hid] at hfound
  obtain ⟨given, hgiven⟩ := Record.decodes_of_optional hfound
  exact MessageId.fits_of_fromJson? hgiven

end Envelope

namespace Message

/-! ### Messages -/

theorem id_of_ofEnvelope {envelope : Envelope} {id : MessageId} {method : String}
    {params : Option Json} (h : ofEnvelope envelope = .ok (.request id method params)) :
    envelope.id = some id := by
  unfold ofEnvelope at h
  split at h
  next found _ hid _ =>
    cases h
    exact hid
  next => cases h
  next => split at h <;> cases h
  next => cases h

/-- What an envelope with the usual version is taken for. -/
theorem classify_toJson {envelope : Envelope} (hversion : envelope.version = some version)
    (hid : ∀ id ∈ envelope.id, id.Fits) (herror : ∀ error ∈ envelope.error, error.Fits) :
    classify envelope.toJson = ofEnvelope envelope := by
  simp only [classify, Envelope.fromJson?_toJson hid herror, hversion, if_true]

theorem classify_of_not_fits {envelope : Envelope} {id : MessageId} (hid : envelope.id = some id)
    (h : ¬id.Fits) : classify envelope.toJson = .error .malformed := by
  simp only [classify, Envelope.fromJson?_of_not_fits hid h]

/-- The id of a request was read from its envelope, so it has room. -/
theorem fits_of_classify {json : Json} {id : MessageId} {method : String} {params : Option Json}
    (h : classify json = .ok (.request id method params)) : id.Fits := by
  unfold classify at h
  split at h
  next => cases h
  next envelope henvelope =>
    have hrequest : ofEnvelope envelope = .ok (.request id method params) := by
      split at h
      next => split at h <;> first | exact h | cases h
      next => exact h
    exact Envelope.fits_of_fromJson? henvelope id (id_of_ofEnvelope hrequest)

/-- A request comes back as itself just if its id has room. -/
theorem classify_encodeRequest_iff {id : Nat} {method : String} {params : Option Json} :
    classify (encodeRequest id method params) = .ok (.request (.number id) method params) ↔
      (id : Int) ≤ Int64.maxValue.toInt := by
  have henvelope : encodeRequest id method params =
      (⟨some version, some (.number id), some method, params, none, none⟩ : Envelope).toJson := rfl
  rw [henvelope, ← MessageId.fits_number_natCast]
  by_cases hfits : (MessageId.number id).Fits
  · rw [classify_toJson rfl (by rintro _ ⟨⟩; exact hfits) (by rintro _ ⟨⟩)]
    exact iff_of_true rfl hfits
  · rw [classify_of_not_fits rfl hfits]
    exact iff_of_false nofun hfits

theorem classify_encodeNotification (method : String) (params : Option Json) :
    classify (encodeNotification method params) = .ok (.notification method params) := by
  have henvelope : encodeNotification method params =
      (⟨some version, none, some method, params, none, none⟩ : Envelope).toJson := rfl
  rw [henvelope, classify_toJson rfl (by rintro _ ⟨⟩) (by rintro _ ⟨⟩)]
  rfl

/-- A reply with a value comes back as itself just if its id has room. The value may be `null`. -/
theorem classify_encodeResult_iff {id : MessageId} {value : Json} :
    classify (encodeResult id value) = .ok (.response id (.ok value)) ↔ id.Fits := by
  have henvelope : encodeResult id value =
      (⟨some version, some id, none, none, some value, none⟩ : Envelope).toJson := rfl
  rw [henvelope]
  by_cases hfits : id.Fits
  · rw [classify_toJson rfl (by rintro _ ⟨⟩; exact hfits) (by rintro _ ⟨⟩)]
    exact iff_of_true rfl hfits
  · rw [classify_of_not_fits rfl hfits]
    exact iff_of_false nofun hfits

theorem classify_encodeFailure_iff {id : MessageId} {error : ResponseError} (herror : error.Fits) :
    classify (encodeFailure id error) = .ok (.response id (.error error)) ↔ id.Fits := by
  have henvelope : encodeFailure id error =
      (⟨some version, some id, none, none, none, some error⟩ : Envelope).toJson := rfl
  rw [henvelope]
  by_cases hfits : id.Fits
  · rw [classify_toJson rfl (by rintro _ ⟨⟩; exact hfits) (by rintro _ ⟨⟩; exact herror)]
    exact iff_of_true rfl hfits
  · rw [classify_of_not_fits rfl hfits]
    exact iff_of_false nofun hfits

theorem fits_methodNotFound (method : String) :
    (⟨ResponseError.methodNotFoundCode, "Method not found: " ++ method, none⟩ :
      ResponseError).Fits where
  code := by
    show Int64.minValue.toInt ≤ -32601 ∧ -32601 ≤ Int64.maxValue.toInt
    decide
  data := nofun

/-- **All that a client sends is taken for what it is.** Requests and notifications keep their
    method and their parameters, be these absent, `null` or anything else; replies keep their value,
    also if it is `null`, or their error. Only an id must have room. -/
theorem envelopes_classify :
    (∀ id method params, classify (encodeRequest id method params) =
        .ok (.request (.number id) method params) ↔ (id : Int) ≤ Int64.maxValue.toInt) ∧
      (∀ method params, classify (encodeNotification method params) =
        .ok (.notification method params)) ∧
      (∀ id value, classify (encodeResult id value) = .ok (.response id (.ok value)) ↔ id.Fits) ∧
      ∀ id method, classify (encodeMethodNotFound id method) =
        .ok (.response id (.error ⟨-32601, "Method not found: " ++ method, none⟩)) ↔ id.Fits :=
  ⟨fun _ _ _ => classify_encodeRequest_iff, classify_encodeNotification,
    fun _ _ => classify_encodeResult_iff,
    fun _ method => classify_encodeFailure_iff (fits_methodNotFound method)⟩

end Message
end SymbolSearch
