/-
**Two modes for documents.**

A column of documents shows its values as JSON values or as texts. Sent back unchanged, a document
is one bound text in either mode: the text that was stored if it was shown as a text, and the text
of the value otherwise. This text is a document again, though not always one for the same value: it
is exactly if every number in the value is what its own text is read as.

* `DocumentText`: what the two modes make of a text that is a document.
* `DocumentValue`: what they make of a value that is no text.
* `documents_in_both_modes`: what holds of every document.
-/

import CatalogSchema.Conversion.Codec
import CatalogSchema.Proofs.Json.Documents

namespace CatalogSchema

open Number

namespace Codec

variable {type : QualifiedName}

/-! ### Sending a text -/

/-- A text bound as the one value of a fragment that casts it to a type. -/
def boundText (type : QualifiedName) (text : String) : Fragment :=
  .cast (.value (.string text)) type

theorem parameters_boundText (type : QualifiedName) (text : String) :
    (boundText type text).compile.parameters = [.string text] := rfl

/-- The mode with values sends the text of a value. -/
theorem encode_structured {value : Json} (present : value ≠ .null) :
    (Codec.document type true).encode value = .ok (boundText type value.text) := by
  cases value <;> first | rfl | exact absurd rfl present

/-- The mode with texts sends any text that is a document. -/
theorem encode_opaque {text : String} {value : Json} (read : Json.read? text = some value) :
    (Codec.document type false).encode (.string text) = .ok (boundText type text) := by
  have step : (Codec.document type false).encode (.string text) =
      (fun text => boundText type text) <$> checkDocument text := rfl
  rw [step, checkDocument, read]
  rfl

theorem decode_structured {text : String} {value : Json} (read : Json.read? text = some value) :
    (Codec.document type true).decode (.string text) = .ok value := by
  have step : (Codec.document type true).decode (.string text) = readDocument text := rfl
  rw [step, readDocument, read]

theorem decode_opaque {value : Json} (present : value ≠ .null) (noText : value.string? = none) :
    (Codec.document type false).decode value = .ok (.string value.text) := by
  cases value with
  | null => exact absurd rfl present
  | string text => cases noText
  | bool value => rfl
  | number value => rfl
  | array items => rfl
  | object members => rfl

/-! ### What is sent -/

/-- What the two modes make of a text that is a document for a value. -/
structure DocumentText (type : QualifiedName) (text : String) (value : Json) : Prop where
  /-- One mode shows the value. -/
  shownValue : (Codec.document type true).decode (.string text) = .ok value
  /-- It sends the text of the value. -/
  sentValue : (Codec.document type true).encode value = .ok (boundText type value.text)
  /-- This text is a document again, and it is one for the same value exactly if the numbers in the
  value survive reading in steps. -/
  readAgain : ∃ again, Json.read? value.text = some again ∧
    (again = value ↔ value.Survives stepwise)
  /-- Integers and numbers of few digits survive. -/
  survives : value.EveryNumber JsonNumber.IsShort → value.Survives stepwise
  /-- The other mode shows the text. -/
  shownText : (Codec.document type false).decode (.string text) = .ok (.string text)
  /-- It sends the text unchanged. -/
  sentText : (Codec.document type false).encode (.string text) = .ok (boundText type text)

/-- What the two modes make of a value that is no text. -/
structure DocumentValue (type : QualifiedName) (value : Json) : Prop where
  /-- The mode with texts shows the text of the value. -/
  shownText : (Codec.document type false).decode value = .ok (.string value.text)
  /-- It accepts this text and sends it. -/
  sentText : (Codec.document type false).encode (.string value.text) =
    .ok (boundText type value.text)
  /-- The mode with values sends the same. -/
  sentValue : (Codec.document type true).encode value = .ok (boundText type value.text)

/-- The text of a well-formed value is a document, for the same value exactly if its numbers
survive. -/
theorem read?_text_again {value : Json} (wellFormed : value.WellFormed)
    (within : value.nesting ≤ Json.depthLimit) :
    ∃ again, Json.read? value.text = some again ∧ (again = value ↔ value.Survives stepwise) := by
  obtain ⟨again, read⟩ := Json.exists_read?_text wellFormed within
  have same := Json.readBy?_text_iff stepwise wellFormed within
  refine ⟨again, read, ?_⟩
  rw [← same]
  exact ⟨fun equal => equal ▸ read, fun survives => Option.some.inj (read.symm.trans survives)⟩

theorem documentText {text : String} {value : Json} (read : Json.read? text = some value)
    (present : value ≠ .null) : DocumentText type text value := by
  obtain ⟨wellFormed, within⟩ := Json.wellFormed_of_readBy? read
  exact {
    shownValue := decode_structured read
    sentValue := encode_structured present
    readAgain := read?_text_again wellFormed within
    survives := Json.survives_stepwise
    shownText := rfl
    sentText := encode_opaque read }

theorem documentValue {value : Json} (wellFormed : value.WellFormed)
    (within : value.nesting ≤ Json.depthLimit) (present : value ≠ .null)
    (noText : value.string? = none) :
    DocumentValue type value := by
  obtain ⟨again, read⟩ := Json.exists_read?_text wellFormed within
  exact {
    shownText := decode_opaque present noText
    sentText := encode_opaque read
    sentValue := encode_structured present }

/-- **What the two modes send is one document.** Each binds one text. For a text that is a document,
the mode with texts sends the text itself, and the mode with values sends the text of its value,
which is a document for the same value exactly if every number in the value, at every depth, is what
its own text is read as. For a value that is no text both modes send its text, and the mode with
texts accepts it. -/
theorem documents_in_both_modes (type : QualifiedName) :
    (∀ text, (boundText type text).compile.parameters = [.string text]) ∧
      (∀ {text value}, Json.read? text = some value → value ≠ .null →
        DocumentText type text value) ∧
      ∀ {value : Json}, value.WellFormed → value.nesting ≤ Json.depthLimit → value ≠ .null →
        value.string? = none → DocumentValue type value :=
  ⟨parameters_boundText type, documentText, documentValue⟩

/-- The documents of a column. -/
def documents : QualifiedName := .inCatalog "jsonb"

/-- A list with an integer, a text, a fraction and nothing in it. -/
def sampleDocument : Json := .array [.ofInt 7, .string "seven", .ofFinite half, .null]

theorem sampleDocument_wellFormed :
    sampleDocument.WellFormed ∧ sampleDocument.nesting ≤ Json.depthLimit := by
  simp [sampleDocument, Json.ofInt, Json.ofFinite, Json.WellFormed, Json.ItemsWellFormed,
    JsonNumber.InRange, Json.nesting, Json.itemNesting, Json.depthLimit]

theorem sampleDocument_isShort : sampleDocument.EveryNumber JsonNumber.IsShort := by
  have shortSeven : JsonNumber.IsShort (.integer 7) := by
    unfold JsonNumber.IsShort JsonNumber.InRange
    decide
  exact ⟨shortSeven, trivial, isShort_half, trivial, trivial⟩

/-- A list comes back in both modes. -/
theorem documents_in_both_modes_sample :
    Json.read? sampleDocument.text = some sampleDocument ∧
      DocumentText documents sampleDocument.text sampleDocument ∧
      sampleDocument.Survives stepwise ∧ DocumentValue documents sampleDocument := by
  obtain ⟨wellFormed, within⟩ := sampleDocument_wellFormed
  obtain ⟨-, texts, values⟩ := documents_in_both_modes documents
  have read : Json.read? sampleDocument.text = some sampleDocument :=
    (Json.readBy?_text_iff stepwise wellFormed within).2
      (Json.survives_stepwise sampleDocument_isShort)
  have ofText := texts read nofun
  exact ⟨read, ofText, ofText.survives sampleDocument_isShort, values wellFormed within nofun rfl⟩

/-- **The text that is sent need not be a document for the same value**: the mode with values shows
the number `100.78399658203125`, and the text it sends is read as the neighbour of this number. -/
theorem document_of_neighbour :
    Json.read? "100.783996582031250" = some (.ofFinite longNumber) ∧
      (Codec.document documents true).decode (.string "100.783996582031250") =
        .ok (.ofFinite longNumber) ∧
      (Codec.document documents true).encode (.ofFinite longNumber) =
        .ok (boundText documents "100.78399658203125") ∧
      Json.read? "100.78399658203125" = some (.ofFinite longNeighbour) ∧
      longNumber ≠ longNeighbour := by
  have tokens :
      JsonTree.readNumber? stepwise "100.783996582031250".toList =
        some (some (.float longNumber), []) ∧
        JsonTree.readNumber? stepwise "100.78399658203125".toList =
          some (some (.float longNeighbour), []) ∧
          (Json.ofFinite longNumber).text = "100.78399658203125" ∧ longNumber ≠ longNeighbour := by
    decide +kernel
  obtain ⟨readFirst, readAgain, text, different⟩ := tokens
  have read : Json.read? "100.783996582031250" = some (.ofFinite longNumber) :=
    Json.readBy?_number rfl (.inr rfl) readFirst
  have again : Json.read? "100.78399658203125" = some (.ofFinite longNeighbour) :=
    Json.readBy?_number rfl (.inr rfl) readAgain
  have sent : (Codec.document documents true).encode (.ofFinite longNumber) =
      .ok (boundText documents (Json.ofFinite longNumber).text) := encode_structured nofun
  rw [text] at sent
  exact ⟨read, decode_structured read, sent, again, different⟩

end Codec

end CatalogSchema
