import Lisplet.Text.Lines

namespace Lisplet.Line

/-! A text keeps its lines when it is taken as bytes: the byte of a newline stands for nothing else,
so each line of the bytes is the text of a line. -/

/-- The pieces through each place where `stop` stands, and what is left behind the last one. -/
def cutBehind [DecidableEq α] (stop : α) : List α → List (List α)
  | [] => []
  | item :: rest =>
      if item = stop then [item] :: cutBehind stop rest
      else
        match cutBehind stop rest with
        | [] => [[item]]
        | piece :: pieces => (item :: piece) :: pieces

section Cutting

variable [DecidableEq α] {stop : α}

theorem nil_not_mem_cutBehind (items : List α) : [] ∉ cutBehind stop items := by
  induction items with
  | nil => simp [cutBehind]
  | cons item items ih =>
      rw [cutBehind]
      split
      · simpa using ih
      · cases hcut : cutBehind stop items with
        | nil => simp
        | cons piece pieces =>
            rw [hcut, List.mem_cons, not_or] at ih
            simpa using ih.2

theorem flatten_cutBehind (items : List α) : (cutBehind stop items).flatten = items := by
  induction items with
  | nil => rfl
  | cons item items ih =>
      rw [cutBehind]
      split
      · simp [ih]
      · cases hcut : cutBehind stop items with
        | nil => simpa [hcut] using ih
        | cons piece pieces => simpa [hcut] using ih

/-- What does not hold `stop` goes to the front of the first piece behind it. -/
theorem cutBehind_append {front : List α} (hfront : front ≠ []) (hstop : stop ∉ front)
    (rest : List α) :
    cutBehind stop (front ++ rest) =
      match cutBehind stop rest with
      | [] => [front]
      | piece :: pieces => (front ++ piece) :: pieces := by
  induction front with
  | nil => exact absurd rfl hfront
  | cons item front ih =>
      rw [List.mem_cons, not_or] at hstop
      rw [List.cons_append, cutBehind, if_neg (Ne.symm hstop.1)]
      cases front with
      | nil => rfl
      | cons next front =>
          rw [ih (by simp) hstop.2]
          cases cutBehind stop rest <;> rfl

theorem stop_not_mem_dropLast {items piece : List α} (h : piece ∈ cutBehind stop items) :
    stop ∉ piece.dropLast := by
  induction items generalizing piece with
  | nil => cases h
  | cons item items ih =>
      rw [cutBehind] at h
      split at h
      · cases h with
        | head => simp
        | tail _ hlater => exact ih hlater
      · rename_i hitem
        cases hcut : cutBehind stop items with
        | nil =>
            rw [hcut, List.mem_singleton] at h
            simp [h]
        | cons first pieces =>
            rw [hcut] at h ih
            cases h with
            | head =>
                have hfirst := ih List.mem_cons_self
                cases first with
                | nil => simp
                | cons next first =>
                    rw [List.dropLast_cons_cons, List.mem_cons, not_or]
                    exact ⟨Ne.symm hitem, hfirst⟩
            | tail _ hlater => exact ih (List.mem_cons_of_mem _ hlater)

end Cutting

theorem split_eq_cutBehind (bytes : List UInt8) : split bytes = cutBehind 10 bytes := by
  induction bytes with
  | nil => rfl
  | cons byte bytes ih =>
      rw [split, cutBehind, ih]
      cases cutBehind 10 bytes <;> rfl

def ofText (text : List Char) : List (List Char) :=
  cutBehind '\n' text

theorem flatten_ofText (text : List Char) : (ofText text).flatten = text :=
  flatten_cutBehind text

theorem ofText_newline (text : List Char) : ofText ('\n' :: text) = ['\n'] :: ofText text := by
  rw [ofText, cutBehind, if_pos rfl, ofText]

theorem ofText_cons {c : Char} (hc : c ≠ '\n') (text : List Char) :
    text = [] ∧ ofText (c :: text) = [[c]] ∨
      ∃ line lines, line ≠ [] ∧ text ≠ [] ∧ ofText text = line :: lines ∧
        ofText (c :: text) = (c :: line) :: lines := by
  have hcons := cutBehind_append (List.cons_ne_nil c []) (by simpa using Ne.symm hc) text
  have hflatten := flatten_ofText text
  have hnonempty : [] ∉ ofText text := nil_not_mem_cutBehind text
  rw [← ofText, ← ofText] at hcons
  cases hlines : ofText text with
  | nil =>
      rw [hlines] at hcons hflatten
      exact .inl ⟨hflatten.symm, hcons⟩
  | cons line lines =>
      rw [hlines] at hcons hflatten hnonempty
      refine .inr ⟨line, lines, ?_, ?_, rfl, hcons⟩
      · intro hline
        simp [hline] at hnonempty
      · intro htext
        rw [htext] at hlines
        cases hlines

def encode (text : List Char) : List UInt8 :=
  text.flatMap String.utf8EncodeChar

theorem toList_toUTF8 (text : String) : text.toUTF8.data.toList = encode text.toList := by
  rw [String.toUTF8_eq_toByteArray, ← String.utf8Encode_toList, List.utf8Encode,
    List.toList_data_toByteArray]
  rfl

theorem ofBytes_encode (text : List Char) : ofBytes (encode text) = some (String.ofList text) := by
  have hbytes : ByteArray.mk (encode text).toArray = (String.ofList text).toByteArray := by
    rw [String.toByteArray_ofList, List.utf8Encode]
    exact ByteArray.ext List.data_toByteArray.symm
  rw [ofBytes, hbytes, String.fromUTF8?, dif_pos (String.ofList text).isValidUTF8]
  rfl

/-- Only a newline has the byte of a newline, for all bytes of longer codes are above it. -/
theorem newline_not_mem_utf8EncodeChar {c : Char} (hc : c ≠ '\n') :
    10 ∉ String.utf8EncodeChar c := by
  have hcode : c.val.toNat ≠ 10 := by
    intro h
    apply hc
    apply Char.ext
    exact UInt32.toNat_inj.mp h
  have hbyte (code : Nat) (hne : code % 256 ≠ 10) : (10 : UInt8) ≠ UInt8.ofNat code := by
    intro h
    have hcodes := congrArg UInt8.toNat h
    rw [UInt8.toNat_ofNat'] at hcodes
    exact hne hcodes.symm
  rw [String.utf8EncodeChar]
  split
  · rw [List.mem_singleton]
    exact hbyte _ (by omega)
  · split
    · simp only [List.mem_cons, List.not_mem_nil, or_false, not_or]
      exact ⟨hbyte _ (by omega), hbyte _ (by omega)⟩
    · split
      · simp only [List.mem_cons, List.not_mem_nil, or_false, not_or]
        exact ⟨hbyte _ (by omega), hbyte _ (by omega), hbyte _ (by omega)⟩
      · simp only [List.mem_cons, List.not_mem_nil, or_false, not_or]
        exact ⟨hbyte _ (by omega), hbyte _ (by omega), hbyte _ (by omega), hbyte _ (by omega)⟩

theorem split_encode (text : List Char) : split (encode text) = (ofText text).map encode := by
  rw [split_eq_cutBehind, ofText]
  induction text with
  | nil => rfl
  | cons c text ih =>
      have hencode : encode (c :: text) = String.utf8EncodeChar c ++ encode text := rfl
      by_cases hc : c = '\n'
      · subst hc
        change cutBehind 10 (10 :: encode text) = _
        rw [cutBehind, if_pos rfl, ih, cutBehind, if_pos rfl]
        rfl
      · rw [hencode, cutBehind_append String.utf8EncodeChar_ne_nil
          (newline_not_mem_utf8EncodeChar hc), ih, cutBehind, if_neg hc]
        cases cutBehind '\n' text with
        | nil => simp [encode]
        | cons line lines => rfl

theorem allOfBytes_encode (text : List Char) :
    allOfBytes (encode text) = (ofText text).map fun line => some (String.ofList line) := by
  rw [allOfBytes, split_encode, List.map_map]
  exact List.map_congr_left fun line _ => ofBytes_encode line

theorem none_not_mem_allOfBytes_encode (text : List Char) : none ∉ allOfBytes (encode text) := by
  simp [allOfBytes_encode]

theorem encode_of_ofBytes_eq {bytes : List UInt8} {line : String}
    (h : ofBytes bytes = some line) : encode line.toList = bytes := by
  rw [ofBytes, String.fromUTF8?] at h
  split at h
  · have hbytes : ByteArray.mk bytes.toArray = line.toByteArray :=
      congrArg String.toByteArray (Option.some.inj h)
    rw [← toList_toUTF8, String.toUTF8_eq_toByteArray, ← hbytes]
  · cases h

theorem empty_not_mem_allOfBytes (bytes : List UInt8) : some "" ∉ allOfBytes bytes := by
  intro h
  obtain ⟨line, hline, hempty⟩ := List.mem_map.mp h
  rw [← encode_of_ofBytes_eq hempty, split_eq_cutBehind] at hline
  exact nil_not_mem_cutBehind bytes hline

theorem newline_not_mem_dropLast {bytes : List UInt8} {line : String}
    (h : some line ∈ allOfBytes bytes) : '\n' ∉ line.toList.dropLast := by
  obtain ⟨piece, hpiece, htext⟩ := List.mem_map.mp h
  have hcut : 10 ∉ piece.dropLast := by
    rw [split_eq_cutBehind] at hpiece
    exact stop_not_mem_dropLast hpiece
  intro hnewline
  apply hcut
  obtain ⟨front, back, hfront⟩ := List.append_of_mem hnewline
  have hline : line.toList ≠ [] := by
    intro hnil
    simp [hnil] at hnewline
  have hbytes : piece =
      encode front ++ 10 :: (encode back ++ String.utf8EncodeChar (line.toList.getLast hline)) := by
    have hline' := List.dropLast_concat_getLast hline
    rw [hfront] at hline'
    rw [← encode_of_ofBytes_eq htext]
    calc
      encode line.toList = encode (front ++ '\n' :: back ++ [line.toList.getLast hline]) := by
        rw [hline']
      _ = _ := by
        simp only [encode, List.flatMap_append, List.flatMap_cons, List.flatMap_nil,
          List.append_nil, List.append_assoc]
        rfl
  rw [hbytes, List.dropLast_append_of_ne_nil (by simp), List.dropLast_cons_of_ne_nil]
  · simp
  · intro hnil
    exact String.utf8EncodeChar_ne_nil (List.append_eq_nil_iff.mp hnil).2

end Lisplet.Line
