import ImageFallback.Proofs.Data.Merge
import ImageFallback.Proofs.Options.Layered
import ImageFallback.Proofs.Options.Moments

/-!
# All ways of loading decode alike

Options are read from a value, from a TOML document that is turned into a value, and from a file and
the environment that are merged into one. The readers differ in what they do with numbers that are
not finite, which never matters because no option wants a number, and with lists that are too long,
which only the shapes can be. Apart from such a list, gathered options are those of the merged value
(`load_merged`), and a document has the same options both ways, unless a map in it is mistaken for a
moment and an option is lost with it.
-/

namespace ImageFallback

open Decode

/-! ## Documents -/

namespace Toml

/-- The map that an edition reads from a document, before any map is taken for a moment. -/
def table? (edition : Edition) (text : String) : Option Value := do
  let cs := match text.toList with
    | c :: rest => if c.toNat == 0xFEFF then rest else c :: rest
    | [] => []
  let entries ← lines? edition (cs.length + 1) [] [] cs
  return Value.ofFields (Item.toFields entries)

theorem read?_first (text : String) : read? .first text = table? .first text := rfl

theorem read?_second (text : String) : read? .second text = (table? .second text).bind settle? := by
  refine Eq.trans ?_ (Option.bind_assoc _ _ settle?).symm
  rfl

theorem map_of_table? {edition : Edition} {text : String} {value : Value}
    (h : table? edition text = some value) : ∃ fields, value = .map fields := by
  unfold table? at h
  obtain ⟨entries, -, h⟩ := Option.bind_eq_some_iff.1 h
  exact ⟨_, (Option.some.inj h).symm⟩

end Toml

/-- A document has the options of the map that the second edition reads from it. -/
theorem Options.toOption_ofToml (text : String) :
    (ofToml text).toOption =
      (Toml.read? .second text).bind fun value => (ofValue value).toOption := by
  unfold ofToml
  rw [Toml.read?_second]
  cases read : Toml.table? .second text with
  | none => rfl
  | some value =>
      obtain ⟨fields, rfl⟩ := Toml.map_of_table? read
      rw [Option.bind_some]
      cases settled : Toml.settle? (.map fields) with
      | none => rfl
      | some value =>
          obtain ⟨fields, rfl, -⟩ := Toml.exists_of_settle?_map settled
          exact toOption_ofValue_finite fields

namespace Layers

/-- The layer of a file; where there is no file it is empty. -/
def layer? : Option File → Option Value
  | none => some (.map [])
  | some file => file.value?

theorem ordered_of_layer? {file : Option File} {lower : Value} (h : layer? file = some lower) :
    (∃ fields, lower = .map fields) ∧ lower.Ordered := by
  cases file with
  | none =>
      cases h
      exact ⟨⟨[], rfl⟩, Value.ordered_map_nil⟩
  | some file => exact ordered_of_value? h

theorem environment_ordered (settings : List (String × String)) :
    (environment settings).Ordered := by
  obtain ⟨fields, isMap, ordered⟩ := ordered_environment settings
  rw [isMap]
  exact ordered

theorem toOption_load (file : Option File) (settings : List (String × String)) :
    (load file settings).toOption = (layer? file).bind fun lower =>
      (Options.decode .ignored (lower.overlay (environment settings))).toOption := by
  cases file with
  | none => simp only [load, layer?, Option.map_none, toOption_mapError, Option.bind_some]
  | some file =>
      cases held : file.value? with
      | none =>
          simp only [load, layer?, Option.map_some, held]
          rfl
      | some lower =>
          simp only [load, layer?, Option.map_some, held, toOption_mapError, Option.bind_some]

/-- Gathered options are those of the merge of both layers. -/
theorem toOption_load_merged {file : Option File} {settings : List (String × String)}
    {lower merged : Value} (held : layer? file = some lower)
    (merges : Value.Merges lower (environment settings) merged)
    (short : ShortShapes merged.entries) :
    (load file settings).toOption = (Options.ofValue merged).toOption := by
  obtain ⟨⟨below, rfl⟩, ordered⟩ := ordered_of_layer? held
  obtain ⟨above, isMap, -⟩ := ordered_environment settings
  have laid := merges.eq_overlay ordered (environment_ordered settings)
  rw [toOption_load, held, Option.bind_some, ← laid]
  rw [isMap, Value.overlay_map] at laid
  subst laid
  exact (Options.toOption_ofValue_map short).symm

/-- Without variables, a document is loaded as the map that the first edition reads from it. -/
theorem toOption_load_document {file : File} {text : String} (format : file.format = .toml)
    (entry : file.entry = .text text)
    (short : ∀ value, Toml.table? .first text = some value → ShortShapes value.entries) :
    (load (some file) []).toOption =
      (Toml.table? .first text).bind fun value => (Options.ofValue value).toOption := by
  have held : layer? (some file) = Toml.table? .first text := by
    simp only [layer?, File.value?, entry, format, Toml.read?_first]
  rw [toOption_load, held]
  cases read : Toml.table? .first text with
  | none => rfl
  | some value =>
      obtain ⟨fields, rfl⟩ := Toml.map_of_table? read
      have alone : (Value.map fields).overlay (environment []) = .map fields := by
        rw [environment, List.foldl_nil, Value.overlay_map, Value.overlayFields]
      rw [Option.bind_some, alone]
      exact (Options.toOption_ofValue_map (short _ read)).symm

theorem toOption_load_eq_ofToml {file : File} {text : String} (format : file.format = .toml)
    (entry : file.entry = .text text) (parsed : Toml.table? .first text = Toml.table? .second text)
    (plain : ∀ value, Toml.table? .first text = some value →
      ShortShapes value.entries ∧ Toml.Settles value ∧ Toml.KeepsOptions value.entries) :
    (load (some file) []).toOption = (Options.ofToml text).toOption := by
  rw [toOption_load_document format entry fun value read => (plain value read).1,
    Options.toOption_ofToml, Toml.read?_second, ← parsed]
  cases read : Toml.table? .first text with
  | none => rfl
  | some value =>
      obtain ⟨-, settles, keeps⟩ := plain value read
      obtain ⟨entries, rfl⟩ := Toml.map_of_table? read
      obtain ⟨settled, passed⟩ := settles.exists_settle?
      rw [Option.bind_some, Option.bind_some, passed, Option.bind_some]
      exact (Toml.toOption_ofValue_settle? passed keeps).symm

/-- All ways of loading decode alike. A file and the environment give the options of their merge. A
document that both editions parse to the same map gives the same options with and without layers,
unless a map in it that is mistaken for a moment has no text of one or an option is lost in it. -/
theorem load_merged (file : Option File) (settings : List (String × String)) (document : File)
    (text : String) :
    (∀ lower, layer? file = some lower →
      (∃ merged, Value.Merges lower (environment settings) merged) ∧
      ∀ merged, Value.Merges lower (environment settings) merged → ShortShapes merged.entries →
        (load file settings).toOption = (Options.ofValue merged).toOption ∧
        (load file settings).toOption = (Options.ofValue merged.finite).toOption) ∧
      (document.format = .toml → document.entry = .text text →
        Toml.table? .first text = Toml.table? .second text →
        (∀ value, Toml.table? .first text = some value →
          ShortShapes value.entries ∧ Toml.Settles value ∧ Toml.KeepsOptions value.entries) →
        (load (some document) []).toOption = (Options.ofToml text).toOption) := by
  refine ⟨fun lower held => ?_, toOption_load_eq_ofToml⟩
  obtain ⟨⟨below, rfl⟩, ordered⟩ := ordered_of_layer? held
  obtain ⟨above, isMap, -⟩ := ordered_environment settings
  have ordered' := environment_ordered settings
  refine ⟨⟨_, Value.merges_overlay ordered ordered'⟩, fun merged merges short => ?_⟩
  have loaded := toOption_load_merged held merges short
  refine ⟨loaded, loaded.trans ?_⟩
  rw [merges.eq_overlay ordered ordered', isMap, Value.overlay_map,
    Options.toOption_ofValue_finite]

/-- A document that sets an option, with and without a variable that sets another one. A map in it
is taken for a moment, but no option reads the map. -/
theorem load_merged_document :
    let text :=
      "loader = \"q\"\nnote = \x7b\"$__toml_private_datetime\" = \"1979-05-27\", by = \"me\"\x7d"
    let file : File := { path := "x.toml", format := .toml, entry := .text text }
    let settings := [("WEBP_SWAP_INLINE_MARKER", "i")]
    let note := Value.map [("$__toml_private_datetime", .text "1979-05-27"), ("by", .text "me")]
    let merged := Value.map [("inline_marker", .text "i"), ("loader", .text "q"), ("note", note)]
    (load (some file) settings).toOption = (Options.ofValue merged).toOption ∧
      (load (some file) []).toOption = (Options.ofToml text).toOption := by
  intro text file settings note merged
  have first : Toml.table? .first text = some (.map [("loader", .text "q"), ("note", note)]) := by
    unfold text note
    decide +kernel
  have second : Toml.table? .second text = some (.map [("loader", .text "q"), ("note", note)]) := by
    unfold text note
    decide +kernel
  have held : layer? (some file) = some (.map [("loader", .text "q"), ("note", note)]) := first
  have above : environment settings = .map [("inline_marker", .text "i")] := by
    decide +kernel
  have short : ∀ entries : List (String × Value),
      (∀ entry ∈ entries, ∀ items, entry.2 ≠ .list items) → ShortShapes entries :=
    fun entries noList key items mem => absurd rfl (noList _ mem items)
  constructor
  · have laid : merged =
        (Value.map [("loader", .text "q"), ("note", note)]).overlay (environment settings) := by
      rw [above]
      unfold merged note
      decide +kernel
    have ordered := (ordered_of_layer? held).2
    have merges := (Value.merges_iff ordered (environment_ordered settings)).2 laid
    refine (((load_merged (some file) settings file text).1 _ held).2 merged merges ?_).1
    exact short _ (by simp [merged, note, Value.entries])
  · refine (load_merged (some file) settings file text).2 rfl rfl (first.trans second.symm) ?_
    intro value read
    rw [first] at read
    cases read
    refine ⟨short _ (by simp [note, Value.entries]), ?_, ?_, ?_⟩
    · refine .map rfl ?_
      rw [List.forall_mem_cons, List.forall_mem_singleton]
      exact ⟨.text _, .moment (by decide +kernel)⟩
    · intro moment
      cases moment
    · intro key inner mem
      simp [Value.entries, note] at mem
      obtain ⟨rfl, rfl⟩ := mem
      intro named
      revert named
      decide +kernel

theorem table?_of_mistaken (edition : Toml.Edition) :
    Toml.table? edition "\"$__toml_private_datetime\" = \"1979-05-27\"\nloader = \"q\"" =
      some (.map [("$__toml_private_datetime", .text "1979-05-27"), ("loader", .text "q")]) := by
  cases edition with
  | first | second => decide +kernel

/-- A document with the key of a moment among others. Both editions parse it alike, but without
layers it is mistaken for a moment and loses the others. -/
theorem load_mistaken :
    let text := "\"$__toml_private_datetime\" = \"1979-05-27\"\nloader = \"q\""
    let file : File := { path := "x.toml", format := .toml, entry := .text text }
    Toml.table? .first text = Toml.table? .second text ∧
      load (some file) [] = .ok { loader := "q" } ∧ Options.ofToml text = .ok {} := by
  intro text file
  refine ⟨?_, eq_ok_of_toOption (by decide +kernel), eq_ok_of_toOption (by decide +kernel)⟩
  exact (table?_of_mistaken .first).trans (table?_of_mistaken .second).symm

end Layers

end ImageFallback
