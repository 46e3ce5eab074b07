import Mathlib.Data.List.Forall2
import Gazette.Proofs.Json.Sorted
import Gazette.Proofs.Wire.Grammar

/-! # What is read is what conforms

A value is read as a tree, an article or a document exactly if it has the form of one, and then as
the one it stands for. -/
namespace Gazette

open Json (Tells Given IsText IsFlag IsInt64 IsUInt32 IsUInt64 IsKind IsIdentifier IsList IsSome
  IsNode IsContent IsCrop IsAudioSource IsFormatInfo IsFormat IsMeta IsDocument IsArticle IsReply)

namespace Json

theorem zip_keys_sublist (keys : List String) (vs : List Json) :
    ((keys.zip vs).map Prod.fst).Sublist keys := by
  induction keys generalizing vs with
  | nil => simp
  | cons key keys ih =>
    cases vs with
    | nil => simp
    | cons v vs => exact (ih vs).cons_cons key

section
variable {keys : List String} {v : Json} {es : List (String × Json)}

theorem Tells.nodup_keys (h : v.Tells keys es) (hv : v.WellFormed) (hk : keys.Nodup) :
    (es.map Prod.fst).Nodup := by
  cases h with
  | object => exact hv.1.nodup_keys
  | @array vs h => exact hk.sublist (zip_keys_sublist keys vs)

theorem Tells.mem_parts {key : String} {w : Json} (h : v.Tells keys es)
    (hw : es.lookup key = some w) : w ∈ v.parts := by
  have hmem := mem_of_lookup hw
  cases h with
  | object => exact List.mem_map_of_mem hmem
  | array => exact (List.of_mem_zip hmem).2

theorem Tells.wellFormed {key : String} {w : Json} (h : v.Tells keys es) (hv : v.WellFormed)
    (hw : es.lookup key = some w) : w.WellFormed := hv.parts (h.mem_parts hw)

end

end Json

namespace Wire

theorem Record.length_le_of_checkLength {ρ : Type} {r : Record ρ} {n : Nat}
    (h : r.checkLength n = .ok ()) : n ≤ r.fields.length := by
  rw [checkLength] at h
  split at h
  · cases h
  · omega

theorem Record.checkLength_of_open {ρ : Type} {r : Record ρ}
    (hopen : ∀ f ∈ r.fields, f.absence = .always) {n : Nat} (hn : n ≤ r.fields.length) :
    r.checkLength n = .ok () := by
  have hnone : (r.fields.drop n).findIdx? (fun f => f.absence ≠ .always) = none := by
    rw [List.findIdx?_eq_none_iff]
    intro f hf
    simp [hopen f (List.mem_of_mem_drop hf)]
  rw [checkLength, hnone, if_neg (by omega)]

/-- A record that names all it has to is read from the entries that make it up. -/
theorem Schema.read_told_iff {s : Schema} {r : Record s.Carrier} {v : Json} {x : s.Carrier}
    (hr : s.record? = some r) (hfree : ∀ f ∈ r.fields, f.absence ≠ .never) (hv : v.WellFormed) :
    s.read v = .ok x ↔ ∃ es, v.Tells r.keys es ∧
      (∀ vs, v = .arr vs → r.checkLength vs.length = .ok ()) ∧
      readEntries s r (Json.under r.keys es) r.start = .ok x := by
  have hlawful := Schema.lawful hr
  have hentries {es : List (String × Json)} (told : v.Tells r.keys es) :
      readEntries s r es r.start = .ok x ↔
        readEntries s r (Json.under r.keys es) r.start = .ok x :=
    readEntries_fields hlawful (told.nodup_keys hv hlawful.nodup_keys)
  have hlength : r.keys.length = r.fields.length := List.length_map ..
  cases v with
  | obj es =>
    have hread : s.read (.obj es) = readEntries s r es r.start := by
      rw [read_obj hr, Record.checkKeys_of_free hfree]
      cases readEntries s r es r.start <;> rfl
    rw [hread, hentries (.object es)]
    constructor
    · exact fun h => ⟨es, .object es, nofun, h⟩
    · rintro ⟨_, ⟨_⟩, -, h⟩
      exact h
  | arr vs =>
    rw [read_arr hr, readFields_eq hlawful, bind_ok_iff]
    constructor
    · rintro ⟨y, hy, h⟩
      obtain ⟨u, hlen, h⟩ := bind_ok_iff.1 h
      cases h
      have told : (Json.arr vs).Tells r.keys (r.keys.zip vs) :=
        .array (hlength ▸ Record.length_le_of_checkLength hlen)
      exact ⟨_, told, fun _ hvs => by cases hvs; exact hlen, (hentries told).1 hy⟩
    · rintro ⟨_, told, hlen, h⟩
      cases told with
      | array hle =>
        refine ⟨x, (hentries (.array hle)).2 h, ?_⟩
        rw [hlen vs rfl]
        rfl
  | null | bool _ | int _ | float _ | str _ =>
    constructor
    · intro h
      cases s <;> cases hr <;> cases h
    · rintro ⟨_, told, -⟩
      cases told

/-- A record with no field that is required is read from any entries that make it up. -/
theorem Schema.read_record_iff {s : Schema} {r : Record s.Carrier} {v : Json} {x : s.Carrier}
    (hr : s.record? = some r) (hopen : ∀ f ∈ r.fields, f.absence = .always) (hv : v.WellFormed) :
    s.read v = .ok x ↔ ∃ es, v.Tells r.keys es ∧
      readEntries s r (Json.under r.keys es) r.start = .ok x := by
  have hfree (f : Field s.Carrier) (hf : f ∈ r.fields) : f.absence ≠ .never := by
    simp [hopen f hf]
  have hlength : r.keys.length = r.fields.length := List.length_map ..
  rw [read_told_iff hr hfree hv]
  constructor
  · rintro ⟨es, told, -, h⟩
    exact ⟨es, told, h⟩
  · rintro ⟨es, told, h⟩
    refine ⟨es, told, ?_, h⟩
    rintro vs rfl
    cases told with
    | array hle => exact Record.checkLength_of_open hopen (hlength ▸ hle)

section
variable {v : Json}

theorem read_text_iff {t : String} : Schema.text.read v = .ok t ↔ IsText v t := by
  constructor
  · intro h
    cases v <;> cases h
    exact .str t
  · rintro ⟨⟩
    rfl

theorem read_flag_iff {b : Bool} : Schema.flag.read v = .ok b ↔ IsFlag v b := by
  constructor
  · intro h
    cases v <;> cases h
    exact .bool b
  · rintro ⟨⟩
    rfl

theorem read_kind_iff {kind : Kind} : Schema.kind.read v = .ok kind ↔ IsKind v kind := by
  constructor
  · intro h
    cases v <;> cases h
    exact .str _
  · rintro ⟨⟩
    rfl

theorem Width.read_ok_iff {width : Width} {x : width.Carrier} {n : Int} :
    width.read n = .ok x ↔ width.ofInt? n = some x := by
  rw [read]
  cases width.ofInt? n <;> simp

theorem read_integer_cases {width : Width} {x : width.Carrier}
    (h : (Schema.integer width).read v = .ok x) : ∃ n, v = .int n ∧ width.ofInt? n = some x := by
  cases v with
  | int n => exact ⟨n, rfl, Width.read_ok_iff.1 h⟩
  | null | bool _ | float _ | str _ | arr _ | obj _ => cases h

theorem read_int64_iff {x : Int64} : (Schema.integer .int64).read v = .ok x ↔ IsInt64 v x := by
  constructor
  · intro h
    obtain ⟨n, rfl, hn⟩ := read_integer_cases h
    obtain ⟨heq, hx⟩ := Option.ite_none_right_eq_some.1 hn
    cases hx
    have hlow := (Int64.ofInt n).le_toInt
    have hhigh := (Int64.ofInt n).toInt_lt
    exact .int (by omega) (by omega)
  · rintro ⟨low, high⟩
    refine Width.read_ok_iff.2 ?_
    rw [Width.ofInt?, Int64.toInt_ofInt_of_le (by omega) (by omega), if_pos rfl]

theorem read_uint32_iff {x : UInt32} : (Schema.integer .uint32).read v = .ok x ↔ IsUInt32 v x := by
  constructor
  · intro h
    obtain ⟨n, rfl, hn⟩ := read_integer_cases h
    obtain ⟨heq, hx⟩ := Option.ite_none_right_eq_some.1 hn
    cases hx
    have hhigh := (UInt32.ofNat n.toNat).toNat_lt
    obtain ⟨k, rfl⟩ := Int.eq_ofNat_of_zero_le (heq ▸ Int.natCast_nonneg _)
    exact .int (by omega)
  · rintro ⟨high⟩
    refine Width.read_ok_iff.2 ?_
    rw [Width.ofInt?, Int.toNat_natCast, UInt32.toNat_ofNat_of_lt' (Nat.lt_succ_of_le high),
      if_pos rfl]

theorem read_uint64_iff {x : UInt64} : (Schema.integer .uint64).read v = .ok x ↔ IsUInt64 v x := by
  constructor
  · intro h
    obtain ⟨n, rfl, hn⟩ := read_integer_cases h
    obtain ⟨heq, hx⟩ := Option.ite_none_right_eq_some.1 hn
    cases hx
    have hhigh := (UInt64.ofNat n.toNat).toNat_lt
    obtain ⟨k, rfl⟩ := Int.eq_ofNat_of_zero_le (heq ▸ Int.natCast_nonneg _)
    exact .int (by omega)
  · rintro ⟨high⟩
    refine Width.read_ok_iff.2 ?_
    rw [Width.ofInt?, Int.toNat_natCast, UInt64.toNat_ofNat_of_lt' (Nat.lt_succ_of_le high),
      if_pos rfl]

theorem Schema.read_null {s : Schema} (h : s ≠ .any) (x : s.Carrier) : s.read .null ≠ .ok x := by
  cases s with
  | any => exact absurd rfl h
  | _ => exact nofun

theorem readItems_iff {item : Schema} {form : Json → item.Carrier → Prop} {vs : List Json}
    {xs : List item.Carrier} (h : ∀ v ∈ vs, ∀ x, item.read v = .ok x ↔ form v x) :
    readItems item vs = .ok xs ↔ List.Forall₂ form vs xs := by
  induction vs generalizing xs with
  | nil =>
    rw [readItems, List.forall₂_nil_left_iff]
    simp [eq_comm]
  | cons v vs ih =>
    obtain ⟨hv, hvs⟩ := List.forall_mem_cons.1 h
    constructor
    · intro h
      obtain ⟨y, ys, hy, hys, rfl⟩ := readItems_cons_cases h
      exact .cons ((hv y).1 hy) ((ih hvs).1 hys)
    · intro h
      cases h with
      | cons hy hys =>
        rw [readItems, (hv _).2 hy, (ih hvs).2 hys]
        rfl

theorem read_list_iff {item : Schema} {form : Json → item.Carrier → Prop} {xs : List item.Carrier}
    (h : ∀ w ∈ v.parts, ∀ x, item.read w = .ok x ↔ form w x) :
    (Schema.list item).read v = .ok xs ↔ IsList form v xs := by
  constructor
  · intro hv
    obtain ⟨vs, rfl, hvs⟩ := Schema.read_list_cases hv
    exact .arr ((readItems_iff h).1 hvs)
  · rintro ⟨hvs⟩
    exact (readItems_iff h).2 hvs

end

section
variable {s : Schema} {r : Record s.Carrier} {f : Field s.Carrier} {key : String}
  {keys : List String} {es : List (String × Json)} {x z : s.Carrier}

/-- What a record tells of a field goes into it, and its fallback is there already. -/
theorem readEntries_given {α : Type} {form : Json → α → Prop} {fallback : α}
    (convert : f.schema.Carrier → α) (set : α → s.Carrier → s.Carrier)
    (hf : r.field? key = some f) (hn : f.nullable = true) (hany : f.schema ≠ .any)
    (hput : ∀ y x, f.put y x = set (convert y) x) (hx : set fallback x = x)
    (hform : ∀ v, es.lookup key = some v → ∀ a,
      form v a ↔ ∃ y, f.schema.read v = .ok y ∧ convert y = a) :
    readEntries s r (Json.under (key :: keys) es) x = .ok z ↔
      ∃ a, Given form fallback (es.lookup key) a ∧
        readEntries s r (Json.under keys es) (set a x) = .ok z := by
  by_cases habsent : Json.Absent (es.lookup key)
  · have hfallback (a : α) : Given form fallback (es.lookup key) a ↔ a = fallback := by
      constructor
      · intro h
        rcases habsent with hnone | hnil
        · rw [hnone] at h
          cases h
          rfl
        · rw [hnil] at h
          cases h with
          | null => rfl
          | value h =>
            obtain ⟨y, hy, -⟩ := (hform .null hnil a).1 h
            exact absurd hy (Schema.read_null hany y)
      · rintro rfl
        rcases habsent with hnone | hnil
        · exact hnone ▸ .absent
        · exact hnil ▸ .null
    rw [readEntries_absent hf hn habsent]
    simp [hfallback, hx]
  obtain ⟨v, hv⟩ : ∃ v, es.lookup key = some v :=
    Option.ne_none_iff_exists'.1 fun hnone => habsent (.inl hnone)
  have hne : v ≠ .null := fun hnil => habsent (.inr (hnil ▸ hv))
  have hskip : f.skips v = false := Field.skips_of_ne_null hne
  rw [hv]
  constructor
  · intro h
    rw [Json.under_of_some hv, readEntries, hf] at h
    simp only [hskip, Bool.false_eq_true, if_false] at h
    obtain ⟨y, hy, h⟩ := bind_ok_iff.1 h
    exact ⟨convert y, .value ((hform v hv _).2 ⟨y, hy, rfl⟩), hput y x ▸ h⟩
  · rintro ⟨a, hgiven, h⟩
    cases hgiven with
    | null => exact absurd rfl hne
    | value ha =>
      obtain ⟨y, hy, rfl⟩ := (hform v hv a).1 ha
      rw [readEntries_present hf hv hskip hy, hput]
      exact h

theorem readEntries_form {form : Json → f.schema.Carrier → Prop} {fallback : f.schema.Carrier}
    (hf : r.field? key = some f) (hn : f.nullable = true) (hany : f.schema ≠ .any)
    (hx : f.put fallback x = x)
    (hform : ∀ v, es.lookup key = some v → ∀ a, f.schema.read v = .ok a ↔ form v a) :
    readEntries s r (Json.under (key :: keys) es) x = .ok z ↔
      ∃ a, Given form fallback (es.lookup key) a ∧
        readEntries s r (Json.under keys es) (f.put a x) = .ok z := by
  refine readEntries_given id f.put hf hn hany (fun _ _ => rfl) hx ?_
  intro v hv a
  simp [hform v hv]

section
variable (p : Schema) {form : Json → p.Carrier → Prop} {put : p.Carrier → s.Carrier → s.Carrier}
  {absence : Absence} {v : Json} {names : List String}

/-- A field for a part of the value that has a form of its own. -/
theorem readEntries_part {fallback : p.Carrier} (told : v.Tells names es) (hv : v.WellFormed)
    (hform : ∀ w, w.WellFormed → ∀ a, p.read w = .ok a ↔ form w a) (hp : p ≠ .any)
    (hf : r.field? key = some { key, schema := p, put }) (hx : put fallback x = x) :
    readEntries s r (Json.under (key :: keys) es) x = .ok z ↔
      ∃ a, Given form fallback (es.lookup key) a ∧
        readEntries s r (Json.under keys es) (put a x) = .ok z :=
  readEntries_form hf rfl hp hx fun w hw => hform w (told.wellFormed hv hw)

/-- Such a field that may also hold none. -/
theorem readEntries_some (set : Option p.Carrier → s.Carrier → s.Carrier)
    (told : v.Tells names es) (hv : v.WellFormed)
    (hform : ∀ w, w.WellFormed → ∀ a, p.read w = .ok a ↔ form w a) (hp : p ≠ .any)
    (hf : r.field? key = some { key, schema := p, put, absence })
    (hput : ∀ y x, put y x = set (some y) x) (hx : set none x = x) :
    readEntries s r (Json.under (key :: keys) es) x = .ok z ↔
      ∃ a, Given (IsSome form) none (es.lookup key) a ∧
        readEntries s r (Json.under keys es) (set a x) = .ok z := by
  refine readEntries_given some set hf rfl hp hput hx ?_
  intro w hw a
  have hread := hform w (told.wellFormed hv hw)
  constructor
  · rintro ⟨h⟩
    exact ⟨_, (hread _).2 h, rfl⟩
  · rintro ⟨y, hy, rfl⟩
    exact .some ((hread y).1 hy)

end

theorem readEntries_text {put : String → s.Carrier → s.Carrier}
    (hf : r.field? key = some { key, schema := .text, put }) (hx : put "" x = x) :
    readEntries s r (Json.under (key :: keys) es) x = .ok z ↔
      ∃ a, Given IsText "" (es.lookup key) a ∧
        readEntries s r (Json.under keys es) (put a x) = .ok z :=
  readEntries_form hf rfl nofun hx fun _ _ _ => read_text_iff

theorem readEntries_int64 {put : Int64 → s.Carrier → s.Carrier}
    (hf : r.field? key = some { key, schema := .integer .int64, put }) (hx : put 0 x = x) :
    readEntries s r (Json.under (key :: keys) es) x = .ok z ↔
      ∃ a, Given IsInt64 0 (es.lookup key) a ∧
        readEntries s r (Json.under keys es) (put a x) = .ok z :=
  readEntries_form hf rfl nofun hx fun _ _ _ => read_int64_iff

theorem readEntries_uint32 {put : UInt32 → s.Carrier → s.Carrier}
    (hf : r.field? key = some { key, schema := .integer .uint32, put }) (hx : put 0 x = x) :
    readEntries s r (Json.under (key :: keys) es) x = .ok z ↔
      ∃ a, Given IsUInt32 0 (es.lookup key) a ∧
        readEntries s r (Json.under keys es) (put a x) = .ok z :=
  readEntries_form hf rfl nofun hx fun _ _ _ => read_uint32_iff

theorem readEntries_uint64 {put : UInt64 → s.Carrier → s.Carrier}
    (hf : r.field? key = some { key, schema := .integer .uint64, put }) (hx : put 0 x = x) :
    readEntries s r (Json.under (key :: keys) es) x = .ok z ↔
      ∃ a, Given IsUInt64 0 (es.lookup key) a ∧
        readEntries s r (Json.under keys es) (put a x) = .ok z :=
  readEntries_form hf rfl nofun hx fun _ _ _ => read_uint64_iff

end

/-! ## The parts of documents -/

section
variable {v : Json}

theorem read_crop_iff (hv : v.WellFormed) {c : Crop} :
    Schema.crop.read v = .ok c ↔ IsCrop v c := by
  rw [Schema.read_record_iff rfl (by decide) hv]
  constructor
  · rintro ⟨es, told, h⟩
    obtain ⟨x, hx, h⟩ := (readEntries_int64 rfl rfl).1 h
    obtain ⟨y, hy, h⟩ := (readEntries_int64 rfl rfl).1 h
    obtain ⟨width, hwidth, h⟩ := (readEntries_int64 rfl rfl).1 h
    obtain ⟨height, hheight, h⟩ := (readEntries_int64 rfl rfl).1 h
    cases h
    exact .told told hx hy hwidth hheight
  · rintro ⟨told, hx, hy, hwidth, hheight⟩
    refine ⟨_, told, ?_⟩
    refine (readEntries_int64 rfl rfl).2 ⟨_, hx, ?_⟩
    refine (readEntries_int64 rfl rfl).2 ⟨_, hy, ?_⟩
    refine (readEntries_int64 rfl rfl).2 ⟨_, hwidth, ?_⟩
    exact (readEntries_int64 rfl rfl).2 ⟨_, hheight, rfl⟩

theorem read_audioSource_iff (hv : v.WellFormed) {a : AudioSource} :
    Schema.audioSource.read v = .ok a ↔ IsAudioSource v a := by
  rw [Schema.read_record_iff rfl (by decide) hv]
  constructor
  · rintro ⟨es, told, h⟩
    obtain ⟨mp3, hmp3, h⟩ := (readEntries_text rfl rfl).1 h
    obtain ⟨kind, hkind, h⟩ := (readEntries_text rfl rfl).1 h
    obtain ⟨durationMs, hduration, h⟩ := (readEntries_uint64 rfl rfl).1 h
    cases h
    exact .told told hmp3 hkind hduration
  · rintro ⟨told, hmp3, hkind, hduration⟩
    refine ⟨_, told, ?_⟩
    refine (readEntries_text rfl rfl).2 ⟨_, hmp3, ?_⟩
    refine (readEntries_text rfl rfl).2 ⟨_, hkind, ?_⟩
    exact (readEntries_uint64 rfl rfl).2 ⟨_, hduration, rfl⟩

theorem read_formatInfo_iff (hv : v.WellFormed) {f : FormatInfo} :
    Schema.formatInfo.read v = .ok f ↔ IsFormatInfo v f := by
  rw [Schema.read_record_iff rfl (by decide) hv]
  constructor
  · rintro ⟨es, told, h⟩
    obtain ⟨path, hpath, h⟩ := (readEntries_text rfl rfl).1 h
    obtain ⟨title, htitle, h⟩ := (readEntries_text rfl rfl).1 h
    obtain ⟨kind, hkind, h⟩ := (readEntries_text rfl rfl).1 h
    cases h
    exact .told told hpath htitle hkind
  · rintro ⟨told, hpath, htitle, hkind⟩
    refine ⟨_, told, ?_⟩
    refine (readEntries_text rfl rfl).2 ⟨_, hpath, ?_⟩
    refine (readEntries_text rfl rfl).2 ⟨_, htitle, ?_⟩
    exact (readEntries_text rfl rfl).2 ⟨_, hkind, rfl⟩

theorem read_format_iff (hv : v.WellFormed) {f : Format} :
    Schema.format.read v = .ok f ↔ IsFormat v f := by
  rw [Schema.read_record_iff rfl (by decide) hv]
  have hform (w : Json) (hw : w.WellFormed) (a : FormatInfo) := read_formatInfo_iff hw (f := a)
  constructor
  · rintro ⟨es, told, h⟩
    obtain ⟨info, hinfo, h⟩ := (readEntries_part .formatInfo told hv hform nofun rfl rfl).1 h
    cases h
    exact .told told hinfo
  · rintro ⟨told, hinfo⟩
    exact ⟨_, told, (readEntries_part .formatInfo told hv hform nofun rfl rfl).2 ⟨_, hinfo, rfl⟩⟩

theorem read_meta_iff (hv : v.WellFormed) {m : Meta} :
    Schema.info.read v = .ok m ↔ IsMeta v m := by
  rw [Schema.read_record_iff rfl (by decide) hv]
  have hcrop (w : Json) (hw : w.WellFormed) (c : Crop) := read_crop_iff hw (c := c)
  have haudio (w : Json) (hw : w.WellFormed) (a : AudioSource) := read_audioSource_iff hw (a := a)
  have hformat (w : Json) (hw : w.WellFormed) (f : Format) := read_format_iff hw (f := f)
  constructor
  · rintro ⟨es, told, h⟩
    obtain ⟨title, htitle, h⟩ := (readEntries_text rfl rfl).1 h
    obtain ⟨path, hpath, h⟩ := (readEntries_text rfl rfl).1 h
    obtain ⟨image, himage, h⟩ := (readEntries_text rfl rfl).1 h
    obtain ⟨description, hdescription, h⟩ := (readEntries_text rfl rfl).1 h
    obtain ⟨publishDate, hdate, h⟩ := (readEntries_text rfl rfl).1 h
    obtain ⟨template, htemplate, h⟩ := (readEntries_text rfl rfl).1 h
    obtain ⟨reading, hreading, h⟩ := (readEntries_uint32 rfl rfl).1 h
    obtain ⟨consumption, hconsumption, h⟩ := (readEntries_uint32 rfl rfl).1 h
    obtain ⟨crop, hc, h⟩ := (readEntries_some (s := .info) .crop
      (fun c m => { m with audioCoverCrop := c }) told hv hcrop nofun rfl (fun _ _ => rfl) rfl).1 h
    obtain ⟨audio, ha, h⟩ := (readEntries_some (s := .info) .audioSource
      (fun a m => { m with audioSource := a }) told hv haudio nofun rfl (fun _ _ => rfl) rfl).1 h
    obtain ⟨format, hf, h⟩ := (readEntries_some (s := .info) .format
      (fun f m => { m with format := f }) told hv hformat nofun rfl (fun _ _ => rfl) rfl).1 h
    cases h
    exact .told told htitle hpath himage hdescription hdate htemplate hreading hconsumption hc ha hf
  · rintro ⟨told, htitle, hpath, himage, hdescription, hdate, htemplate, hreading, hconsumption,
      hc, ha, hf⟩
    refine ⟨_, told, ?_⟩
    refine (readEntries_text rfl rfl).2 ⟨_, htitle, ?_⟩
    refine (readEntries_text rfl rfl).2 ⟨_, hpath, ?_⟩
    refine (readEntries_text rfl rfl).2 ⟨_, himage, ?_⟩
    refine (readEntries_text rfl rfl).2 ⟨_, hdescription, ?_⟩
    refine (readEntries_text rfl rfl).2 ⟨_, hdate, ?_⟩
    refine (readEntries_text rfl rfl).2 ⟨_, htemplate, ?_⟩
    refine (readEntries_uint32 rfl rfl).2 ⟨_, hreading, ?_⟩
    refine (readEntries_uint32 rfl rfl).2 ⟨_, hconsumption, ?_⟩
    refine (readEntries_some (s := .info) .crop (fun c m => { m with audioCoverCrop := c })
      told hv hcrop nofun rfl (fun _ _ => rfl) rfl).2 ⟨_, hc, ?_⟩
    refine (readEntries_some (s := .info) .audioSource (fun a m => { m with audioSource := a })
      told hv haudio nofun rfl (fun _ _ => rfl) rfl).2 ⟨_, ha, ?_⟩
    exact (readEntries_some (s := .info) .format (fun f m => { m with format := f })
      told hv hformat nofun rfl (fun _ _ => rfl) rfl).2 ⟨_, hf, rfl⟩

theorem read_document_iff (hv : v.WellFormed) {d : Document} :
    Schema.document.read v = .ok d ↔ IsDocument v d := by
  rw [Schema.read_record_iff rfl (by decide) hv]
  have hmeta (w : Json) (hw : w.WellFormed) (m : Meta) := read_meta_iff hw (m := m)
  constructor
  · rintro ⟨es, told, h⟩
    obtain ⟨id, hid, h⟩ := (readEntries_text rfl rfl).1 h
    obtain ⟨info, hinfo, h⟩ := (readEntries_part .info told hv hmeta nofun rfl rfl).1 h
    cases h
    exact .told told hid hinfo
  · rintro ⟨told, hid, hinfo⟩
    refine ⟨_, told, ?_⟩
    refine (readEntries_text rfl rfl).2 ⟨_, hid, ?_⟩
    exact (readEntries_part .info told hv hmeta nofun rfl rfl).2 ⟨_, hinfo, rfl⟩

end

/-! ## Trees and articles -/

/-- An identifier is a text, and none if it is empty. -/
theorem isIdentifier_iff {v : Json} {i : Option Identifier} : IsIdentifier v i ↔
    ∃ name, Schema.text.read v = .ok name ∧
      (if name = "" then none else some (Identifier.ofName name)) = i := by
  constructor
  · intro h
    cases h with
    | empty => exact ⟨"", rfl, rfl⟩
    | str h => exact ⟨_, rfl, if_neg h⟩
  · rintro ⟨name, h, rfl⟩
    obtain ⟨⟩ := read_text_iff.1 h
    by_cases hname : name = ""
    · subst hname
      exact .empty
    · rw [if_neg hname]
      exact .str hname

theorem read_node_step {v : Json} (hv : v.WellFormed)
    (hbelow : ∀ w ∈ v.parts, ∀ ns, (Schema.list .node).read w = .ok ns ↔ IsList IsNode w ns)
    {n : Node} : Schema.node.read v = .ok n ↔ IsNode v n := by
  rw [Schema.read_record_iff rfl (by decide) hv]
  constructor
  · rintro ⟨es, told, h⟩
    obtain ⟨kind, hkind, h⟩ :=
      (readEntries_form rfl rfl (by nofun) rfl fun _ _ _ => read_kind_iff).1 h
    obtain ⟨identifier, hidentifier, h⟩ := (readEntries_given (s := .node) _
      (fun identifier n => { n with identifier }) rfl rfl (by nofun) (fun _ _ => rfl) rfl
      fun _ _ _ => isIdentifier_iff).1 h
    obtain ⟨children, hchildren, h⟩ :=
      (readEntries_form rfl rfl (by nofun) rfl fun w hw => hbelow w (told.mem_parts hw)).1 h
    obtain ⟨depth, hdepth, h⟩ := (readEntries_int64 rfl rfl).1 h
    obtain ⟨value, hvalue, h⟩ := (readEntries_text rfl rfl).1 h
    obtain ⟨alt, halt, h⟩ := (readEntries_text rfl rfl).1 h
    obtain ⟨title, htitle, h⟩ := (readEntries_text rfl rfl).1 h
    obtain ⟨url, hurl, h⟩ := (readEntries_text rfl rfl).1 h
    obtain ⟨code, hcode, h⟩ := (readEntries_text rfl rfl).1 h
    obtain ⟨lang, hlang, h⟩ := (readEntries_text rfl rfl).1 h
    obtain ⟨label, hlabel, h⟩ := (readEntries_text rfl rfl).1 h
    obtain ⟨ordered, hordered, h⟩ :=
      (readEntries_form rfl rfl (by nofun) rfl fun _ _ _ => read_flag_iff).1 h
    cases h
    exact .told told hkind hidentifier hchildren hdepth hvalue halt htitle hurl hcode hlang hlabel
      hordered
  · rintro ⟨told, hkind, hidentifier, hchildren, hdepth, hvalue, halt, htitle, hurl, hcode, hlang,
      hlabel, hordered⟩
    cases n
    refine ⟨_, told, ?_⟩
    refine (readEntries_form rfl rfl (by nofun) rfl fun _ _ _ => read_kind_iff).2 ⟨_, hkind, ?_⟩
    refine (readEntries_given (s := .node) _ (fun identifier n => { n with identifier }) rfl rfl
      (by nofun) (fun _ _ => rfl) rfl fun _ _ _ => isIdentifier_iff).2 ⟨_, hidentifier, ?_⟩
    refine (readEntries_form rfl rfl (by nofun) rfl
      fun w hw => hbelow w (told.mem_parts hw)).2 ⟨_, hchildren, ?_⟩
    refine (readEntries_int64 rfl rfl).2 ⟨_, hdepth, ?_⟩
    refine (readEntries_text rfl rfl).2 ⟨_, hvalue, ?_⟩
    refine (readEntries_text rfl rfl).2 ⟨_, halt, ?_⟩
    refine (readEntries_text rfl rfl).2 ⟨_, htitle, ?_⟩
    refine (readEntries_text rfl rfl).2 ⟨_, hurl, ?_⟩
    refine (readEntries_text rfl rfl).2 ⟨_, hcode, ?_⟩
    refine (readEntries_text rfl rfl).2 ⟨_, hlang, ?_⟩
    refine (readEntries_text rfl rfl).2 ⟨_, hlabel, ?_⟩
    exact (readEntries_form rfl rfl (by nofun) rfl
      fun _ _ _ => read_flag_iff).2 ⟨_, hordered, rfl⟩

theorem read_tree_iff (v : Json) (hv : v.WellFormed) :
    (∀ n, Schema.node.read v = .ok n ↔ IsNode v n) ∧
      ∀ ns, (Schema.list .node).read v = .ok ns ↔ IsList IsNode v ns := by
  -- Children stand in a list and the items of a list are trees, so both are carried along.
  induction v using Json.walk with
  | step v ih =>
    have below (w : Json) (hw : w ∈ v.parts) := ih w hw (hv.parts hw)
    exact ⟨fun n => read_node_step hv fun w hw => (below w hw).2,
      fun ns => read_list_iff fun w hw => (below w hw).1⟩

section
variable {v : Json}

theorem read_content_iff (hv : v.WellFormed) {c : Content} :
    Schema.content.read v = .ok c ↔ IsContent v c := by
  rw [Schema.read_record_iff rfl (by decide) hv]
  have hnodes (w : Json) (hw : w.WellFormed) := (read_tree_iff w hw).2
  constructor
  · rintro ⟨es, told, h⟩
    obtain ⟨kind, hkind, h⟩ := (readEntries_text rfl rfl).1 h
    obtain ⟨children, hchildren, h⟩ :=
      (readEntries_part (.list .node) told hv hnodes nofun rfl rfl).1 h
    cases h
    exact .told told hkind hchildren
  · rintro ⟨told, hkind, hchildren⟩
    refine ⟨_, told, ?_⟩
    refine (readEntries_text rfl rfl).2 ⟨_, hkind, ?_⟩
    exact (readEntries_part (.list .node) told hv hnodes nofun rfl rfl).2 ⟨_, hchildren, rfl⟩

theorem read_article_iff (hv : v.WellFormed) {a : Article} :
    Schema.article.read v = .ok a ↔ IsArticle v a := by
  rw [Schema.read_record_iff rfl (by decide) hv]
  have hcontent (w : Json) (hw : w.WellFormed) (c : Content) := read_content_iff hw (c := c)
  have hmeta (w : Json) (hw : w.WellFormed) (m : Meta) := read_meta_iff hw (m := m)
  constructor
  · rintro ⟨es, told, h⟩
    obtain ⟨kind, hkind, h⟩ := (readEntries_text rfl rfl).1 h
    obtain ⟨id, hid, h⟩ := (readEntries_text rfl rfl).1 h
    obtain ⟨repoId, hrepo, h⟩ := (readEntries_text rfl rfl).1 h
    obtain ⟨content, hc, h⟩ := (readEntries_part .content told hv hcontent nofun rfl rfl).1 h
    obtain ⟨info, hinfo, h⟩ := (readEntries_part .info told hv hmeta nofun rfl rfl).1 h
    cases h
    exact .told told hkind hid hrepo hc hinfo
  · rintro ⟨told, hkind, hid, hrepo, hc, hinfo⟩
    refine ⟨_, told, ?_⟩
    refine (readEntries_text rfl rfl).2 ⟨_, hkind, ?_⟩
    refine (readEntries_text rfl rfl).2 ⟨_, hid, ?_⟩
    refine (readEntries_text rfl rfl).2 ⟨_, hrepo, ?_⟩
    refine (readEntries_part .content told hv hcontent nofun rfl rfl).2 ⟨_, hc, ?_⟩
    exact (readEntries_part .info told hv hmeta nofun rfl rfl).2 ⟨_, hinfo, rfl⟩

theorem read_reply_iff (hv : v.WellFormed) {r : ArticleReply} :
    Schema.reply.read v = .ok r ↔ IsReply v r := by
  rw [Schema.read_record_iff rfl (by decide) hv]
  have harticle (w : Json) (hw : w.WellFormed) (a : Article) := read_article_iff hw (a := a)
  constructor
  · rintro ⟨es, told, h⟩
    obtain ⟨article, ha, h⟩ := (readEntries_part .article told hv harticle nofun rfl rfl).1 h
    cases h
    exact .told told ha
  · rintro ⟨told, ha⟩
    exact ⟨_, told, (readEntries_part .article told hv harticle nofun rfl rfl).2 ⟨_, ha, rfl⟩⟩

theorem fault_iff {α : Type} {form : α → Prop} {result : Except Mismatch α}
    (h : ∀ x, result = .ok x ↔ form x) : (∃ m, result = .error m) ↔ ∀ x, ¬ form x := by
  simp only [← h]
  cases result <;> simp

end

/-- A tree, an article and a document are read from exactly the values that conform, as what these
stand for, and from any other value comes a misfit. -/
theorem read_iff_conforms {v : Json} (hv : v.WellFormed) :
    (∀ n, Schema.node.read v = .ok n ↔ IsNode v n) ∧
      (∀ r, Schema.reply.read v = .ok r ↔ IsReply v r) ∧
      (∀ d, Schema.document.read v = .ok d ↔ IsDocument v d) ∧
      ((∃ m, Schema.node.read v = .error m) ↔ ∀ n, ¬ IsNode v n) ∧
      ((∃ m, Schema.reply.read v = .error m) ↔ ∀ r, ¬ IsReply v r) ∧
      ((∃ m, Schema.document.read v = .error m) ↔ ∀ d, ¬ IsDocument v d) := by
  have hnode := (read_tree_iff v hv).1
  have hreply (r : ArticleReply) := read_reply_iff hv (r := r)
  have hdocument (d : Document) := read_document_iff hv (d := d)
  exact ⟨hnode, hreply, hdocument, fault_iff hnode, fault_iff hreply, fault_iff hdocument⟩

/-- An array that is a heading of the greatest depth, but as a document it is too long. -/
theorem read_iff_conforms_heading :
    let v : Json := .arr [.str "heading", .null, .arr [.obj [("value", .str "a")]],
      .int 9223372036854775807]
    let n : Node := .heading 9223372036854775807 [{ value := "a" }]
    v.WellFormed ∧ IsNode v n ∧ (∀ r, ¬ IsReply v r) ∧ ∀ d, ¬ IsDocument v d := by
  intro v n
  have hv : v.WellFormed := by
    simp [v, Json.WellFormed, Json.WellFormedItems, Json.WellFormedEntries, Json.Ascending]
  obtain ⟨hnode, -, -, -, hreply, hdocument⟩ := read_iff_conforms hv
  exact ⟨hv, (hnode n).1 rfl, hreply.1 ⟨_, rfl⟩, hdocument.1 ⟨_, rfl⟩⟩

end Wire
end Gazette
