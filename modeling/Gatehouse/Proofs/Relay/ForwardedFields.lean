import Gatehouse.Proofs.Http.Grouping
import Gatehouse.Proofs.Relay.Answers

/-!
# Fields of forwarded requests

A service gets the fields of a request but for those of a fixed set of names, and nothing else about
them changes: neither their bytes, nor their number, nor the order of the names or of the values of a
name. It makes no difference whether the fields are left out in a walk through the message name by name,
or before they are put together.
-/

namespace Gatehouse.Relay

open Http (FieldName FieldValue Headers isFieldName)

/-- The names of the fields that no service gets, in small letters. -/
def droppedNames : List String := connectionNames ++ ["host", "content-length"]

theorem isForwarded_iff {name : FieldName} : isForwarded name = true ↔ name.text ∉ droppedNames := by
  have hhost : name = .host ↔ name.text = "host" := FieldName.text_inj.symm
  have hlength : name = .contentLength ↔ name.text = "content-length" := FieldName.text_inj.symm
  simp only [isForwarded, isConnectionField, droppedNames, Bool.and_eq_true, Bool.not_eq_true',
    decide_eq_false_iff_not, decide_eq_true_eq, mem_connectionFields_iff, ne_eq, hhost, hlength,
    List.mem_append, List.mem_cons, List.not_mem_nil, or_false, not_or, and_assoc]

theorem isForwarded_eq (name : FieldName) : isForwarded name = decide (name.text ∉ droppedNames) := by
  rw [Bool.eq_iff_iff, isForwarded_iff, decide_eq_true_eq]

/-- The fields to forward, added one by one in a walk through a message name by name. -/
def gatherForwarded (headers : Headers) : Headers :=
  headers.grouped.foldl
    (fun gathered field =>
      if isForwarded field.1 then gathered.append field.1 field.2 else gathered)
    .empty

theorem gatherForwarded_eq (headers : Headers) :
    gatherForwarded headers = ⟨(requestFields headers).grouped⟩ := by
  rw [requestFields, Headers.grouped_filterNames, gatherForwarded, ← List.foldl_filter]
  exact Headers.appendEach_eq .empty _

/-- In whatever letter case a dropped name is spelled, it is a name, and no value of it is forwarded. -/
theorem values_requestFields_of_spelled (headers : Headers) {bytes : Bytes}
    (hdropped : Text.lowerAscii (Text.ofAscii bytes) ∈ droppedNames) :
    ∃ name, FieldName.ofBytes? bytes = some name ∧ (requestFields headers).values name = [] := by
  have hnames : ∀ text ∈ droppedNames, isFieldName text = true := by decide
  refine ⟨⟨_, hnames _ hdropped⟩, dif_pos (hnames _ hdropped), ?_⟩
  rw [requestFields, Headers.values_filterNames, if_neg]
  exact fun hforwarded => isForwarded_iff.1 hforwarded hdropped

theorem values_requestFields_of_kept {headers : Headers} {name : FieldName}
    (hkept : name.text ∉ droppedNames) :
    (requestFields headers).values name = headers.values name := by
  rw [requestFields, Headers.values_filterNames, if_pos (isForwarded_iff.2 hkept)]

/-- What is not forwarded are the values of the dropped names. -/
theorem size_requestFields (headers : Headers) :
    (requestFields headers).size +
      ((headers.names.filter fun name => name.text ∈ droppedNames).flatMap headers.values).length =
      headers.size := by
  have hdropped := Headers.size_eq (headers.filterNames fun name => name.text ∈ droppedNames)
  rw [Headers.names_filterNames] at hdropped
  have hvalues : ∀ name ∈ headers.names.filter fun name => name.text ∈ droppedNames,
      (headers.filterNames fun name => name.text ∈ droppedNames).values name = headers.values name := by
    intro name hname
    rw [Headers.values_filterNames, if_pos (List.mem_filter.1 hname).2]
  rw [← List.flatMap_congr hvalues, ← hdropped]
  have hsplit := List.length_eq_length_filter_add (l := headers.fields) fun field => isForwarded field.1
  simp only [isForwarded_eq, decide_not, Bool.not_not] at hsplit
  simp only [Headers.size, requestFields, Headers.filterNames, isForwarded_eq, decide_not]
  exact hsplit.symm

theorem requestFields_idempotent (headers : Headers) :
    requestFields (requestFields headers) = requestFields headers := by
  simp only [requestFields, Headers.filterNames, List.filter_filter, Bool.and_self]

/-- Fields may be left out before they are added to a message. -/
theorem requestFields_appendEach (headers : Headers) (fields : List (FieldName × FieldValue)) :
    requestFields (headers.appendEach fields) =
      (requestFields headers).appendEach (fields.filter fun field => field.1.text ∉ droppedNames) := by
  simp only [Headers.appendEach_eq, requestFields, Headers.filterNames, List.filter_append,
    isForwarded_eq]

/-- A service gets no value of a dropped name, however its letters are spelled, and of every other name
the values of the message, with the names in their order; there are as many fields less as the dropped
names have values. This is what a walk through the message name by name gathers. A message that is
forwarded again stays as it is, and fields may be left out before they are put into a message. -/
theorem requestFields_projects (headers : Headers) :
    (∀ bytes, Text.lowerAscii (Text.ofAscii bytes) ∈ droppedNames →
      ∃ name, FieldName.ofBytes? bytes = some name ∧ (requestFields headers).values name = []) ∧
    (∀ name : FieldName, name.text ∉ droppedNames →
      (requestFields headers).values name = headers.values name) ∧
    (requestFields headers).names = headers.names.filter (fun name => name.text ∉ droppedNames) ∧
    (requestFields headers).grouped =
      headers.grouped.filter (fun field => field.1.text ∉ droppedNames) ∧
    (requestFields headers).size +
      ((headers.names.filter fun name => name.text ∈ droppedNames).flatMap headers.values).length =
      headers.size ∧
    (gatherForwarded headers).grouped = (requestFields headers).grouped ∧
    requestFields (requestFields headers) = requestFields headers ∧
    ∀ first second : List (FieldName × FieldValue),
      requestFields ((Headers.empty.appendEach first).appendEach second) =
        (Headers.empty.appendEach (first.filter fun field => field.1.text ∉ droppedNames)).appendEach
          (second.filter fun field => field.1.text ∉ droppedNames) := by
  refine ⟨fun bytes => values_requestFields_of_spelled headers, fun name => values_requestFields_of_kept,
    ?_, ?_, size_requestFields headers, ?_, requestFields_idempotent headers, ?_⟩
  · rw [requestFields, Headers.names_filterNames]
    exact List.filter_congr fun name _ => isForwarded_eq name
  · rw [requestFields, Headers.grouped_filterNames]
    exact List.filter_congr fun field _ => isForwarded_eq field.1
  · rw [gatherForwarded_eq, Headers.grouped_ofGrouped]
  · intro first second
    rw [requestFields_appendEach, requestFields_appendEach]
    rfl

end Gatehouse.Relay
