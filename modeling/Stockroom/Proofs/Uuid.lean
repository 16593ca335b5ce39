import Stockroom.Proofs.Text.Digits
import Stockroom.Uuid

/-!
# Identifiers are read back

The written form of an identifier is the hyphenated one, so the reader takes its
groups apart and finds the digits of the identifier.
-/

namespace Stockroom.Uuid

theorem exists_groups {digits : List Char} (h : digits.length = 32) :
    ∃ a b c d e : List Char, digits = a ++ (b ++ (c ++ (d ++ e))) ∧ a.length = 8 ∧
      b.length = 4 ∧ c.length = 4 ∧ d.length = 4 ∧ e.length = 12 := by
  refine ⟨digits.take 8, (digits.drop 8).take 4, (digits.drop 12).take 4,
    (digits.drop 16).take 4, digits.drop 20, ?_, ?_⟩
  · rw [show digits.drop 20 = (digits.drop 16).drop 4 by simp, List.take_append_drop,
      show digits.drop 16 = (digits.drop 12).drop 4 by simp, List.take_append_drop,
      show digits.drop 12 = (digits.drop 8).drop 4 by simp, List.take_append_drop,
      List.take_append_drop]
  · simp [h]

theorem hyphenate_eq {a b c d : List Char} (e : List Char) (ha : a.length = 8)
    (hb : b.length = 4) (hc : c.length = 4) (hd : d.length = 4) :
    hyphenate (a ++ (b ++ (c ++ (d ++ e)))) =
      a ++ '-' :: (b ++ '-' :: (c ++ '-' :: (d ++ '-' :: e))) := by
  simp [hyphenate, List.drop_append, List.drop_of_length_le, ha, hb, hc, hd]

theorem unhyphenate?_hyphenate {digits : List Char} (h : digits.length = 32) :
    unhyphenate? (hyphenate digits) = some digits := by
  obtain ⟨a, b, c, d, e, rfl, ha, hb, hc, hd, he⟩ := exists_groups h
  have written := hyphenate_eq e ha hb hc hd
  have length : (hyphenate (a ++ (b ++ (c ++ (d ++ e))))).length = 36 := by
    rw [written]
    simp [ha, hb, hc, hd, he]
  have groups : (hyphenate (a ++ (b ++ (c ++ (d ++ e))))).take 8 ++
      ((hyphenate (a ++ (b ++ (c ++ (d ++ e))))).drop 9).take 4 ++
      ((hyphenate (a ++ (b ++ (c ++ (d ++ e))))).drop 14).take 4 ++
      ((hyphenate (a ++ (b ++ (c ++ (d ++ e))))).drop 19).take 4 ++
      (hyphenate (a ++ (b ++ (c ++ (d ++ e))))).drop 24 = a ++ (b ++ (c ++ (d ++ e))) := by
    rw [written]
    simp [List.drop_append, List.drop_of_length_le, ha, hb, hc, hd]
  rw [unhyphenate?, groups, if_pos ⟨length, rfl⟩]

theorem ofDigits?_paddedDigits (id : Uuid) :
    ofDigits? (Text.paddedDigits 16 32 id.value) = some id := by
  have small : id.value % 16 ^ 32 = id.value := Nat.mod_eq_of_lt id.value_lt
  rw [ofDigits?, Text.readHex_paddedDigits, Nat.zero_mul, Nat.zero_add, small,
    Option.bind_eq_bind, Option.bind_some, dif_pos id.value_lt]

/-- The hyphenated form starts with a digit, so it is neither in braces nor a resource name. -/
theorem hyphenate_head (id : Uuid) :
    ∃ c rest, hyphenate (Text.paddedDigits 16 32 id.value) = c :: rest ∧ c ≠ '{' ∧
      c.toLower ≠ 'u' := by
  have digit : ∀ n < 16, Nat.digitChar n ≠ '{' ∧ (Nat.digitChar n).toLower ≠ 'u' := by decide
  cases hdigits : Text.paddedDigits 16 32 id.value with
  | nil =>
      have length := Text.length_paddedDigits 16 32 id.value
      simp [hdigits] at length
  | cons c rest =>
      have member : c ∈ Text.paddedDigits 16 32 id.value := by simp [hdigits]
      obtain ⟨n, hn, rfl⟩ := Text.exists_digitChar_of_mem_paddedDigits (by decide) member
      exact ⟨_, _, rfl, digit n hn⟩

@[simp] theorem parse?_render (id : Uuid) : parse? id.render = some id := by
  have length : (hyphenate (Text.paddedDigits 16 32 id.value)).length = 36 := by
    simp [hyphenate]
  have groups : ofGroups? (hyphenate (Text.paddedDigits 16 32 id.value)) = some id := by
    rw [ofGroups?, unhyphenate?_hyphenate (Text.length_paddedDigits _ _ _), Option.bind_eq_bind,
      Option.bind_some, ofDigits?_paddedDigits]
  obtain ⟨c, rest, hhead, hbrace, hurn⟩ := hyphenate_head id
  have plain : withoutUrnHead (c :: rest) = c :: rest := by
    simp [withoutUrnHead, urnHead, hurn]
  have unbraced : ∀ tail, c :: rest = '{' :: tail → False := by
    intro tail heq
    injection heq with head
    exact hbrace head
  rw [hhead] at length groups
  rw [parse?, render, String.toList_ofList, hhead, parseChars?, if_neg (by omega), plain, groups]
  exact unbraced

end Stockroom.Uuid
