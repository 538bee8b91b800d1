import TreeDump.Configuration.File
import TreeDump.Proofs.Encoding.Utf8
import TreeDump.Proofs.Json.Ascii
import TreeDump.Proofs.Json.Lists

/-!
# Configurations that are read back

The two lists of a configuration are read back from its document, whatever texts are in them.
-/

namespace TreeDump.Configuration

/-! ### Documents -/

lemma ofJson_lists (extensions ignored : List Text) :
    ofJson (.object (Json.collectFields
        ([(extensionsKey, extensions), (ignoredKey, ignored)].map Json.textField)))
      = .ok (ofLists extensions ignored) := by
  have texts : ∀ ts, (Json.textItems ts).map Json.asText = ts := by
    intro ts
    simp [Json.textItems, Json.asText, Function.comp_def]
  have different : RawText.ofText extensionsKey ≠ RawText.ofText ignoredKey := by decide
  have fields : Json.collectFields
      ([(extensionsKey, extensions), (ignoredKey, ignored)].map Json.textField)
      = [(extensionsKey, extensions), (ignoredKey, ignored)].map Json.textField := by
    simp [Json.collectFields, Json.putField, Json.textField, different]
  rw [fields]
  simp [ofJson, field, Json.textField, List.lookup_cons,
    beq_eq_false_iff_ne.mpr different.symm, texts, bind, Except.bind, pure, Except.pure]

lemma isPortable_print (config : Configuration) : ∀ c ∈ config.print, isPortable c = true :=
  List.forall_mem_append.mpr ⟨Json.isPortable_printLists _, List.all_eq_true.mp rfl⟩

/-- The lists of a configuration are read back from the bytes of its document. -/
theorem ofBytes_print (config : Configuration) :
    ofBytes (Utf8.encode config.print)
      = .ok (ofLists config.extensions.toList config.ignored.toList) := by
  have document : Json.ofText config.print = _ := Json.ofText_printLists _
  rw [ofBytes, Utf8.decode_eq_ok.mpr rfl]
  simp only [Except.mapError, bind, Except.bind,
    Text.unifyNewlines_of_portable (isPortable_print config), document, ofJson_lists]

end TreeDump.Configuration
