import Aorta.Http.HttpHandler
import Aorta.Library.FormCoding

/-!
# Form bodies

`getFormValue` gives back what a form was written from, whichever encoder wrote it.
-/

namespace Aorta.Http.HttpHandler

open Aorta.Library.Ascii Aorta.Library.FormCoding Aorta.Library.Search

set_option autoImplicit false

theorem url_decode_cons {byte : Byte} (other : byte ≠ 37) (rest : Bytes) :
    urlDecode (byte :: rest) = (if byte = 43 then 32 else byte) :: urlDecode rest := by
  cases rest with
  | nil => rfl
  | cons first rest =>
      cases rest with
      | nil =>
          rw [urlDecode]
          exact nofun
      | cons second rest =>
          rw [urlDecode]
          by_cases plus : byte = 43
          · rw [if_pos plus, if_pos plus]
          · simp [plus, other]

theorem url_decode_code {byte : Byte} {code : Bytes} (writes : Code byte code) (rest : Bytes) :
    urlDecode (code ++ rest) = byte :: urlDecode rest := by
  cases writes with
  | plain unreserved =>
      obtain ⟨noPercent, _, noPlus, _⟩ := unreserved_other unreserved
      rw [List.singleton_append, url_decode_cons noPercent, if_neg noPlus]
  | percent highHex lowHex =>
      simp only [List.cons_append, List.nil_append]
      rw [urlDecode, if_neg (by decide), if_pos (by simp [highHex, lowHex])]
  | plus => exact url_decode_cons (by decide) rest

theorem url_decode_encodes {value text : Bytes} (encodes : Encodes value text) :
    urlDecode text = value := by
  induction encodes with
  | nil => rfl
  | cons first rest ih => rw [url_decode_code first, ih]

theorem form_value_cons (key : Bytes) (fuel : Nat) (field : FormField) (fields : List FormField) :
    formValue key (fuel + 1) (formText (field :: fields)) =
      if field.key = key then field.value else formValue key fuel (formText fields) := by
  obtain ⟨pair, rest⟩ := form_text_cons field fields
  have filled : (formText (field :: fields)).isEmpty = false := by
    cases fields with
    | nil => simp [formText, FormField.text]
    | cons next fields => simp [formText, FormField.text]
  have noSeparator : 61 ∉ field.key := by
    intro member
    exact (unreserved_other (field.unreserved 61 member)).2.2.2 rfl
  have separator : find field.text [61] 0 = some field.key.length := by
    rw [find_zero, FormField.text, first_occurrence_item _ noSeparator]
  have current : substr field.text 0 field.key.length = field.key := by
    rw [substr_zero, FormField.text, List.take_left]
  have behind : field.text.drop (field.key.length + 1) = field.code := by
    rw [FormField.text, ← List.drop_drop, List.drop_left]
    rfl
  rw [formValue]
  simp only [filled, Bool.false_eq_true, if_false, pair, rest, separator, current, behind,
    url_decode_encodes field.encodes]

theorem form_value_fields (key : Bytes) (fields : List FormField) {fuel : Nat}
    (enough : fields.length ≤ fuel) :
    formValue key fuel (formText fields) =
      ((fields.find? (·.key = key)).map FormField.value).getD [] := by
  induction fields generalizing fuel with
  | nil =>
      cases fuel with
      | zero => rfl
      | succ fuel => rfl
  | cons field fields ih =>
      cases fuel with
      | zero => cases enough
      | succ fuel =>
          rw [form_value_cons, List.find?_cons, ih (Nat.le_of_succ_le_succ enough)]
          by_cases same : field.key = key
          · simp [same]
          · simp [same]

theorem fields_length_le (fields : List FormField) : fields.length ≤ (formText fields).length := by
  induction fields with
  | nil => exact Nat.le_refl 0
  | cons field fields ih =>
      cases fields with
      | nil =>
          simp only [formText, FormField.text, List.length_append, List.length_cons,
            List.length_nil]
          omega
      | cons next fields =>
          simp only [formText, FormField.text, List.length_append, List.length_cons] at ih ⊢
          omega

theorem get_form_value_fields (fields : List FormField) (key : Bytes) :
    getFormValue (formText fields) key =
      ((fields.find? (·.key = key)).map FormField.value).getD [] :=
  form_value_fields key fields (fields_length_le fields)

/-- A field as the frontend writes it. -/
def uriField (key value : Bytes) (unreserved : ∀ byte ∈ key, isUnreserved byte = true) :
    FormField where
  key := key
  value := value
  code := encodeURIComponent value
  unreserved := unreserved
  encodes := encode_uri_component_encodes value

/-- The body that the frontend sends for a new task. -/
def createBody (title : Bytes) : Bytes := ascii "title=" ++ encodeURIComponent title

/-- The body that the frontend sends for a changed task. -/
def updateBody (title : Bytes) (completed : Bool) : Bytes :=
  ascii "title=" ++ encodeURIComponent title ++ ascii "&completed=" ++
    (if completed then ascii "true" else ascii "false")

/-- The value of a key is that of its first field, and empty when it has none; the bodies
of the frontend are read back as they were meant. -/
theorem form_decoding_undoes_encoding :
    (∀ (fields : List FormField) (key : Bytes), getFormValue (formText fields) key =
      ((fields.find? (·.key = key)).map FormField.value).getD []) ∧
    (∀ title, getFormValue (createBody title) (ascii "title") = title) ∧
    ∀ title completed,
      getFormValue (updateBody title completed) (ascii "title") = title ∧
        getFormValue (updateBody title completed) (ascii "completed") =
          if completed then ascii "true" else ascii "false" := by
  refine ⟨get_form_value_fields, ?_, ?_⟩
  · intro title
    exact get_form_value_fields [uriField (ascii "title") title (by decide)] (ascii "title")
  · intro title completed
    have flag : encodeURIComponent (if completed then ascii "true" else ascii "false") =
        if completed then ascii "true" else ascii "false" := by
      cases completed with
      | true => decide
      | false => decide
    have body : updateBody title completed = formText
        [uriField (ascii "title") title (by decide), uriField (ascii "completed")
          (if completed then ascii "true" else ascii "false") (by decide)] := by
      simp only [updateBody, formText, FormField.text, uriField, flag]
      simp [ascii]
    rw [body]
    constructor
    · rw [get_form_value_fields]
      rfl
    · rw [get_form_value_fields]
      rfl

end Aorta.Http.HttpHandler
