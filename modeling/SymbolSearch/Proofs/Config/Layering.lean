import SymbolSearch.Config.Load
import SymbolSearch.Proofs.Toml.Order

/-!
# One layer over another

What is found in a table that lies over another one, and what becomes of the tables of servers.

* `Layer.field?_overlayFields` — a key of the upper table is found as it is there, laid over what
  the lower one has under it; any other key is found as it is in the lower one.
* `ServerSection.Within` — a section sets all that another one sets, to the same values.
* `Overlaid` — the sections of two layers and of the one that both come to;
  `Layer.overlaid_merge` shows that layers are laid over each other in this way.
-/

namespace SymbolSearch

/-! ### Tables -/

namespace Layer

variable {below above : Toml.Fields} {base : Option Toml} {value : Toml} {key : String}

/-- Nothing is seen of what is below a value that is no table. -/
theorem overlay_of_not_table (h : ∀ fields, value ≠ .table fields) :
    overlay base value = value := by
  cases value with
  | table fields => exact absurd rfl (h fields)
  | _ => rw [overlay]; exact h

/-- Nothing is seen of what is no table itself. -/
theorem overlay_of_base (h : ∀ fields, base ≠ some (.table fields)) (value : Toml) :
    overlay base value = value := by
  cases value with
  | table fields => rw [overlay]; exact h
  | _ => exact overlay_of_not_table nofun

theorem ascending_overlayFields (h : Ascending below) (above : Toml.Fields) :
    Ascending (overlayFields below above) := by
  induction above generalizing below with
  | nil => exact h
  | cons field rest ih =>
    rw [overlayFields]
    exact ih (Toml.ascending_insertField h)

theorem field?_overlayFields (h : Ascending above) (below : Toml.Fields) (key : String) :
    Toml.field? (overlayFields below above) key =
      match Toml.field? above key with
      | some value => some (overlay (Toml.field? below key) value)
      | none => Toml.field? below key := by
  induction above generalizing below with
  | nil => rfl
  | cons field rest ih =>
    obtain ⟨other, value⟩ := field
    obtain ⟨hfirst, hrest⟩ := List.pairwise_cons.mp h
    rw [overlayFields, ih hrest]
    by_cases hkey : key = other
    · subst hkey
      -- The key does not come again in what is left of the upper table.
      have hnone : Toml.field? rest key = none := by
        rw [Toml.field?, List.lookup_eq_none_iff]
        intro field hfield
        simpa using String.ne_of_lt (hfirst field hfield)
      have hfound : Toml.field? ((key, value) :: rest) key = some value := List.lookup_cons_self
      rw [hnone, hfound, Toml.field?_insertField_self]
    · have hskip : Toml.field? ((other, value) :: rest) key = Toml.field? rest key := by
        simp [Toml.field?, List.lookup_cons, beq_eq_false_iff_ne.mpr hkey]
      rw [hskip, Toml.field?_insertField_of_ne hkey]

end Layer

/-! ### Sections of servers -/

/-- All that a section sets is set to the same value in the whole one. -/
structure ServerSection.Within (given whole : ServerSection) : Prop where
  enabled : ∀ value, given.enabled = some value → whole.enabled = some value
  command : ∀ value, given.command = some value → whole.command = some value
  args : ∀ value, given.args = some value → whole.args = some value
  languageId : ∀ value, given.languageId = some value → whole.languageId = some value
  fileExtensions : ∀ value, given.fileExtensions = some value → whole.fileExtensions = some value
  readinessNotification : ∀ value,
    given.readinessNotification = some value → whole.readinessNotification = some value

theorem ServerSection.Within.refl (given : ServerSection) : given.Within given :=
  ⟨fun _ => id, fun _ => id, fun _ => id, fun _ => id, fun _ => id, fun _ => id⟩

namespace ConfigSections

variable {fields below above : Toml.Fields} {given whole : ServerSection}

/-- Reads a value that may be missing. -/
abbrev optional {α : Type} (read : Toml → Option α) (fields : Toml.Fields) (key : String) :
    Option (Option α) :=
  valueOr (fun value => (read value).map some) none fields key

theorem server?_eq_some_iff : server? fields = some given ↔
    optional truth? fields "enabled" = some given.enabled ∧
    optional text? fields "command" = some given.command ∧
    optional texts? fields "args" = some given.args ∧
    optional text? fields "language_id" = some given.languageId ∧
    optional texts? fields "file_extensions" = some given.fileExtensions ∧
    optional text? fields "readiness_notification" = some given.readinessNotification := by
  obtain ⟨enabled, command, args, languageId, fileExtensions, readinessNotification⟩ := given
  simp only [server?, optional, Option.bind_eq_bind, Option.bind_eq_some_iff, Option.pure_def,
    Option.some.injEq, ServerSection.mk.injEq]
  constructor
  · rintro ⟨_, h₁, _, h₂, _, h₃, _, h₄, _, h₅, _, h₆, rfl, rfl, rfl, rfl, rfl, rfl⟩
    exact ⟨h₁, h₂, h₃, h₄, h₅, h₆⟩
  · rintro ⟨h₁, h₂, h₃, h₄, h₅, h₆⟩
    exact ⟨_, h₁, _, h₂, _, h₃, _, h₄, _, h₅, _, h₆, rfl, rfl, rfl, rfl, rfl, rfl⟩

/-- A value that the upper table has is read the same with another table below, unless it is a
    table itself. -/
theorem optional_overlayFields {α : Type} {read : Toml → Option α} {key : String} {value : α}
    {seen : Option α} (hread : ∀ fields, read (.table fields) = none) (habove : Ascending above)
    (hvalue : optional read above key = some (some value))
    (hseen : optional read (Layer.overlayFields below above) key = some seen) :
    seen = some value := by
  simp only [optional, valueOr, Layer.field?_overlayFields habove] at hvalue hseen
  cases hfound : Toml.field? above key with
  | none => simp [hfound] at hvalue
  | some found =>
    simp only [hfound] at hvalue hseen
    have hplain : ∀ fields, found ≠ .table fields := by
      rintro fields rfl
      simp [hread] at hvalue
    rw [Layer.overlay_of_not_table hplain, hvalue] at hseen
    exact (Option.some.inj hseen).symm

/-- A section that lies over another one still sets all that it sets by itself. -/
theorem within_of_overlayFields (habove : Ascending above) (hgiven : server? above = some given)
    (hwhole : server? (Layer.overlayFields below above) = some whole) : given.Within whole := by
  have htruth (fields) : truth? (.table fields) = none := rfl
  have htext (fields) : text? (.table fields) = none := rfl
  have htexts (fields) : texts? (.table fields) = none := rfl
  obtain ⟨h₁, h₂, h₃, h₄, h₅, h₆⟩ := server?_eq_some_iff.mp hgiven
  obtain ⟨k₁, k₂, k₃, k₄, k₅, k₆⟩ := server?_eq_some_iff.mp hwhole
  exact {
    enabled _ h := optional_overlayFields htruth habove (h ▸ h₁) k₁
    command _ h := optional_overlayFields htext habove (h ▸ h₂) k₂
    args _ h := optional_overlayFields htexts habove (h ▸ h₃) k₃
    languageId _ h := optional_overlayFields htext habove (h ▸ h₄) k₄
    fileExtensions _ h := optional_overlayFields htexts habove (h ▸ h₅) k₅
    readinessNotification _ h := optional_overlayFields htext habove (h ▸ h₆) k₆ }

/-- Reads the section of one server of a layer. -/
def serverIn? (value : Toml) : Option ServerSection :=
  (fieldsOf? .strict serverFields value).bind server?

theorem within_of_overlay {base : Option Toml} {value : Toml} (hvalue : value.Ordered)
    (hgiven : serverIn? value = some given)
    (hwhole : serverIn? (Layer.overlay base value) = some whole) : given.Within whole := by
  have hsame (h : Layer.overlay base value = value) : given.Within whole := by
    rw [h, hgiven] at hwhole
    cases hwhole
    exact .refl given
  by_cases htable : ∃ fields, value = .table fields
  · obtain ⟨fields, rfl⟩ := htable
    by_cases hbase : ∃ below, base = some (.table below)
    · obtain ⟨below, rfl⟩ := hbase
      rw [Layer.overlay] at hwhole
      exact within_of_overlayFields (Toml.ordered_table_iff.mp hvalue).1 hgiven hwhole
    · exact hsame (Layer.overlay_of_base (not_exists.mp hbase) _)
  · exact hsame (Layer.overlay_of_not_table (not_exists.mp htable))

/-- The sections of servers are those of the fields of a table. -/
theorem exists_of_servers? {value : Toml} {tables : List (String × ServerSection)}
    (h : servers? .strict value = some tables) :
    ∃ fields, value = .table fields ∧ FieldsRead serverIn? fields tables := by
  cases value with
  | table fields =>
    refine ⟨fields, rfl, ?_⟩
    refine FieldsRead.of_mapM ?_
    rw [← h, servers?]
    congr 1
    funext ⟨name, value⟩
    exact Option.map_eq_bind
  | _ => cases h

theorem servers_of_ofFields? {strictness : Strictness} {sections : ConfigSections}
    (h : ofFields? strictness fields = some sections) :
    valueOr (servers? strictness) [] fields "servers" = some sections.servers := by
  simp only [ofFields?, Option.bind_eq_bind, Option.bind_eq_some_iff, Option.pure_def] at h
  obtain ⟨_, -, _, -, _, -, _, -, _, -, servers, hservers, h⟩ := h
  cases h
  exact hservers

end ConfigSections

/-- The sections of servers of two layers, and those of the layer that both come to. -/
structure Overlaid (below above merged : List (String × ServerSection)) : Prop where
  ascending : Ascending merged
  /-- What the upper layer sets is set in what both come to. -/
  upper : ∀ table ∈ above, ∃ whole, (table.1, whole) ∈ merged ∧ table.2.Within whole
  /-- A section of the lower layer stays as it is where the upper one has none of that name. -/
  lower : ∀ table ∈ below, (∀ other ∈ above, other.1 ≠ table.1) → table ∈ merged
  origin : ∀ table ∈ merged, (∃ other ∈ above, other.1 = table.1) ∨ table ∈ below

namespace Overlaid

open ConfigSections

variable {below above : Toml.Fields} {lower upper merged : List (String × ServerSection)}

theorem of_above_nil (h : Ascending lower) : Overlaid lower [] lower where
  ascending := h
  upper := nofun
  lower _ htable _ := htable
  origin _ htable := .inr htable

theorem of_below_nil (h : Ascending upper) : Overlaid [] upper upper where
  ascending := h
  upper table htable := ⟨table.2, htable, .refl _⟩
  lower := nofun
  origin table htable := .inl ⟨table, htable, rfl⟩

/-- Sections that are read from two tables, and those that are read from one over the other. -/
theorem of_overlayFields (hbelow : Toml.Ordered (.table below))
    (habove : Toml.Ordered (.table above))
    (hlower : FieldsRead serverIn? below lower) (hupper : FieldsRead serverIn? above upper)
    (hmerged : FieldsRead serverIn? (Layer.overlayFields below above) merged) :
    Overlaid lower upper merged := by
  obtain ⟨hbelow, -⟩ := Toml.ordered_table_iff.mp hbelow
  obtain ⟨habove, hvalues⟩ := Toml.ordered_table_iff.mp habove
  have hfields := Layer.ascending_overlayFields hbelow above
  have hfield := Layer.field?_overlayFields habove below
  unfold Toml.field? at hfield
  refine { ascending := hmerged.ascending hfields, upper := ?_, lower := ?_, origin := ?_ }
  · intro table htable
    obtain ⟨value, hvalue, hread⟩ := (hupper.mem_iff habove).mp htable
    have hover := hfield table.1
    rw [hvalue] at hover
    obtain ⟨whole, hwhole, hreadWhole⟩ :=
      hmerged.exists_of_mem_fields (hfields.lookup_eq_some_iff.mp hover)
    have hordered := hvalues _ (habove.lookup_eq_some_iff.mp hvalue)
    exact ⟨whole, hwhole, within_of_overlay hordered hread hreadWhole⟩
  · intro table htable hnone
    obtain ⟨value, hvalue, hread⟩ := (hlower.mem_iff hbelow).mp htable
    refine (hmerged.mem_iff hfields).mpr ⟨value, ?_, hread⟩
    rw [hfield, hupper.lookup_eq_none hnone]
    exact hvalue
  · intro table htable
    by_cases hnone : ∀ other ∈ upper, other.1 ≠ table.1
    · obtain ⟨value, hvalue, hread⟩ := (hmerged.mem_iff hfields).mp htable
      rw [hfield, hupper.lookup_eq_none hnone] at hvalue
      exact .inr ((hlower.mem_iff hbelow).mpr ⟨value, hvalue, hread⟩)
    · push Not at hnone
      exact .inl hnone

end Overlaid

namespace Layer

open ConfigSections

/-- The sections of servers of a layer in order are in order. -/
theorem ascending_servers {layer : Layer} {sections : ConfigSections}
    (hlayer : Toml.Ordered (.table layer)) (h : ofFields? .strict layer = some sections) :
    Ascending sections.servers := by
  have hservers := servers_of_ofFields? h
  unfold valueOr at hservers
  split at hservers
  next =>
    rw [← Option.some.inj hservers]
    exact List.Pairwise.nil
  next value hvalue =>
    obtain ⟨fields, rfl, hread⟩ := exists_of_servers? hservers
    obtain ⟨hascending, heach⟩ := Toml.ordered_table_iff.mp hlayer
    have hordered := heach _ (hascending.lookup_eq_some_iff.mp hvalue)
    exact hread.ascending (Toml.ordered_table_iff.mp hordered).1

theorem overlaid_merge {below above : Layer} {lower upper merged : ConfigSections}
    (hbelow : Toml.Ordered (.table below)) (habove : Toml.Ordered (.table above))
    (hlower : ofFields? .strict below = some lower)
    (hupper : ofFields? .strict above = some upper)
    (hmerged : ofFields? .strict (below.merge above) = some merged) :
    Overlaid lower.servers upper.servers merged.servers := by
  have hservers := servers_of_ofFields? hmerged
  have hlowerServers := servers_of_ofFields? hlower
  have hupperServers := servers_of_ofFields? hupper
  obtain ⟨hbelowFields, hbelowValues⟩ := Toml.ordered_table_iff.mp hbelow
  obtain ⟨haboveFields, haboveValues⟩ := Toml.ordered_table_iff.mp habove
  simp only [valueOr, merge, field?_overlayFields haboveFields]
    at hservers hlowerServers hupperServers
  cases hover : Toml.field? above "servers" with
  | none =>
    simp only [hover] at hservers hupperServers
    rw [hlowerServers] at hservers
    rw [← Option.some.inj hservers, ← Option.some.inj hupperServers]
    exact .of_above_nil (ascending_servers hbelow hlower)
  | some value =>
    simp only [hover] at hservers hupperServers
    obtain ⟨upperFields, rfl, hupperRead⟩ := exists_of_servers? hupperServers
    cases hunder : Toml.field? below "servers" with
    | none =>
      simp only [hunder] at hservers hlowerServers
      rw [overlay_of_base (by simp), hupperServers] at hservers
      rw [← Option.some.inj hservers, ← Option.some.inj hlowerServers]
      exact .of_below_nil (ascending_servers habove hupper)
    | some value =>
      simp only [hunder] at hservers hlowerServers
      obtain ⟨lowerFields, rfl, hlowerRead⟩ := exists_of_servers? hlowerServers
      rw [overlay] at hservers
      obtain ⟨fields, hfields, hread⟩ := exists_of_servers? hservers
      cases hfields
      refine .of_overlayFields ?_ ?_ hlowerRead hupperRead hread
      · exact hbelowValues _ (hbelowFields.lookup_eq_some_iff.mp hunder)
      · exact haboveValues _ (haboveFields.lookup_eq_some_iff.mp hover)

end Layer
end SymbolSearch
