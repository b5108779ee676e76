import Provenance.Text.Lines
import Provenance.Text.Utf8
import Mathlib.Logic.Basic

/-!
Texts in files read back: the bytes of a text decode to it, and no other bytes do
(`decode_eq_ok_iff`), and lines without boundaries in them come back from the text that ends each of
them (`splitLines_terminated`).
-/
namespace Provenance.Text

namespace Utf8

/-- One step of the decoder inside a character, where the byte continues it. -/
theorem decodeFrom_within {taken : List UInt8} {payload low high more position n : Nat}
    {done : List Char} {rest : List UInt8} (byte : n < 256) (above : low ≤ n) (below : n ≤ high) :
    decodeFrom (.within taken payload low high more) position done (UInt8.ofNat n :: rest) =
      match more with
      | 0 => decodeFrom .start (position + 1) (Char.ofNat (payload * 64 + (n - 0x80)) :: done) rest
      | more + 1 =>
        decodeFrom (.within (UInt8.ofNat n :: taken) (payload * 64 + (n - 0x80)) 0x80 0xBF more)
          (position + 1) done rest := by
  have value : (UInt8.ofNat n).toNat = n := by simp [Nat.mod_eq_of_lt byte]
  cases more <;> simp [decodeFrom, value, above, below]

/-- One step of the decoder at a byte that announces a longer character. -/
theorem decodeFrom_lead {position n : Nat} {done : List Char} {rest : List UInt8} {lead : Lead}
    (byte : n < 256) (long : 0x80 ≤ n) (announced : leadOf n = some lead) :
    decodeFrom .start position done (UInt8.ofNat n :: rest) =
      decodeFrom (.within [UInt8.ofNat n] lead.payload lead.low lead.high lead.more)
        (position + 1) done rest := by
  have value : (UInt8.ofNat n).toNat = n := by simp [Nat.mod_eq_of_lt byte]
  simp [decodeFrom, value, Nat.not_lt.mpr long, announced]

theorem lead_of_two {n : Nat} (low : 0x80 ≤ n) (high : n < 0x800) :
    leadOf (0xC0 + n / 64) = some ⟨n / 64, 0x80, 0xBF, 0⟩ := by
  unfold leadOf
  rw [if_pos (by omega)]
  simp

/-- The ranges of the second byte are the ones that the characters of three bytes reach. -/
theorem lead_of_three {n : Nat} (low : 0x800 ≤ n) (high : n < 0x10000)
    (scalar : n < 0xD800 ∨ 0xDFFF < n) :
    ∃ least most, leadOf (0xE0 + n / 4096) = some ⟨n / 4096, least, most, 1⟩ ∧
      least ≤ 0x80 + n / 64 % 64 ∧ 0x80 + n / 64 % 64 ≤ most := by
  unfold leadOf
  rw [if_neg (by omega)]
  split
  · exact ⟨0xA0, 0xBF, by simp; omega, by omega, by omega⟩
  · split
    · exact ⟨0x80, 0x9F, by simp; omega, by omega, by omega⟩
    · rw [if_pos (by omega)]
      exact ⟨0x80, 0xBF, by simp, by omega, by omega⟩

theorem lead_of_four {n : Nat} (low : 0x10000 ≤ n) (high : n < 0x110000) :
    ∃ least most, leadOf (0xF0 + n / 262144) = some ⟨n / 262144, least, most, 2⟩ ∧
      least ≤ 0x80 + n / 4096 % 64 ∧ 0x80 + n / 4096 % 64 ≤ most := by
  unfold leadOf
  rw [if_neg (by omega), if_neg (by omega), if_neg (by omega), if_neg (by omega)]
  split
  · exact ⟨0x90, 0xBF, by simp; omega, by omega, by omega⟩
  · split
    · exact ⟨0x80, 0xBF, by simp, by omega, by omega⟩
    · rw [if_pos (by omega)]
      exact ⟨0x80, 0x8F, by simp; omega, by omega, by omega⟩

/-- The bytes of one character bring the decoder back between characters, with that character. -/
theorem decodeFrom_encodeChar (c : Char) (position : Nat) (done : List Char) (rest : List UInt8) :
    ∃ next, decodeFrom .start position done (encodeChar c ++ rest) =
      decodeFrom .start next (c :: done) rest := by
  have valid : c.toNat < 0xD800 ∨ 0xDFFF < c.toNat ∧ c.toNat < 0x110000 := c.valid
  have same : Char.ofNat c.toNat = c := Char.ofNat_toNat c
  unfold encodeChar
  dsimp only
  generalize size : c.toNat = n at *
  split
  · rename_i one
    refine ⟨position + 1, ?_⟩
    have value : (UInt8.ofNat n).toNat = n := by simp; omega
    simp [decodeFrom, value, one, same]
  · split
    · refine ⟨position + 1 + 1, ?_⟩
      simp only [List.cons_append, List.nil_append]
      rw [decodeFrom_lead (by omega) (by omega) (lead_of_two (by omega) (by omega)),
        decodeFrom_within (by omega) (by simp) (by simp; omega)]
      have whole : n / 64 * 64 + (0x80 + n % 64 - 0x80) = n := by omega
      simp only [whole, same]
    · split
      · obtain ⟨low, high, lead, above, below⟩ :=
          lead_of_three (n := n) (by omega) (by omega) (by omega)
        refine ⟨position + 1 + 1 + 1, ?_⟩
        simp only [List.cons_append, List.nil_append]
        rw [decodeFrom_lead (by omega) (by omega) lead,
          decodeFrom_within (by omega) above below]
        dsimp only
        rw [decodeFrom_within (by omega) (by omega) (by omega)]
        have whole : (n / 4096 * 64 + (0x80 + n / 64 % 64 - 0x80)) * 64 +
            (0x80 + n % 64 - 0x80) = n := by omega
        simp only [whole, same]
      · obtain ⟨low, high, lead, above, below⟩ := lead_of_four (n := n) (by omega) (by omega)
        refine ⟨position + 1 + 1 + 1 + 1, ?_⟩
        simp only [List.cons_append, List.nil_append]
        rw [decodeFrom_lead (by omega) (by omega) lead,
          decodeFrom_within (by omega) above below]
        dsimp only
        rw [decodeFrom_within (by omega) (by omega) (by omega)]
        dsimp only
        rw [decodeFrom_within (by omega) (by omega) (by omega)]
        have whole : ((n / 262144 * 64 + (0x80 + n / 4096 % 64 - 0x80)) * 64 +
            (0x80 + n / 64 % 64 - 0x80)) * 64 + (0x80 + n % 64 - 0x80) = n := by omega
        simp only [whole, same]

theorem decodeFrom_encode (s : List Char) (position : Nat) (done : List Char) :
    decodeFrom .start position done (encode s) = .ok (done.reverse ++ s) := by
  induction s generalizing position done with
  | nil => simp [encode, decodeFrom]
  | cons c rest ih =>
    obtain ⟨next, read⟩ := decodeFrom_encodeChar c position done (encode rest)
    have bytes : encode (c :: rest) = encodeChar c ++ encode rest := List.flatMap_cons
    rw [bytes, read, ih]
    simp

/-- Every text comes back from its bytes. -/
theorem decode_encode (s : List Char) : decode (encode s) = .ok s :=
  decodeFrom_encode s 0 []

/-- What is refused is no text. -/
theorem ne_encode_of_decode {bytes : List UInt8} {fault : Fault}
    (told : decode bytes = .error fault) (s : List Char) : bytes ≠ encode s := by
  rintro rfl
  cases told.symm.trans (decode_encode s)

theorem encode_injective {s t : List Char} (same : encode s = encode t) : s = t := by
  have back := decode_encode s
  rw [same, decode_encode] at back
  exact (Except.ok.inj back).symm

/-! ## Bytes read as a text -/

theorem toNat_ofNat {n : Nat} (valid : n.isValidChar) : (Char.ofNat n).toNat = n := by
  rw [Char.ofNat, dif_pos valid]
  rfl

theorem ofNat_of_toNat {n : Nat} {b : UInt8} (same : n = b.toNat) : UInt8.ofNat n = b := by
  rw [same, UInt8.ofNat_toNat]

theorem encodeChar_one {a : UInt8} (small : a.toNat < 0x80) :
    encodeChar (Char.ofNat a.toNat) = [a] := by
  rw [encodeChar, toNat_ofNat (by unfold Nat.isValidChar; omega), if_pos small, UInt8.ofNat_toNat]

theorem encodeChar_two {a b : UInt8} (first : 0xC2 ≤ a.toNat ∧ a.toNat ≤ 0xDF)
    (second : 0x80 ≤ b.toNat ∧ b.toNat ≤ 0xBF) :
    encodeChar (Char.ofNat ((a.toNat - 0xC0) * 64 + (b.toNat - 0x80))) = [a, b] := by
  rw [encodeChar, toNat_ofNat (by unfold Nat.isValidChar; omega), if_neg (by omega),
    if_pos (by omega), ofNat_of_toNat (b := a) (by omega), ofNat_of_toNat (b := b) (by omega)]

theorem encodeChar_three {a b c : UInt8} (first : 0xE0 ≤ a.toNat ∧ a.toNat ≤ 0xEF)
    (second : 0x80 ≤ b.toNat ∧ b.toNat ≤ 0xBF) (long : a.toNat = 0xE0 → 0xA0 ≤ b.toNat)
    (scalar : a.toNat = 0xED → b.toNat ≤ 0x9F) (third : 0x80 ≤ c.toNat ∧ c.toNat ≤ 0xBF) :
    encodeChar (Char.ofNat
      (((a.toNat - 0xE0) * 64 + (b.toNat - 0x80)) * 64 + (c.toNat - 0x80))) = [a, b, c] := by
  rw [encodeChar, toNat_ofNat (by unfold Nat.isValidChar; omega), if_neg (by omega),
    if_neg (by omega), if_pos (by omega), ofNat_of_toNat (b := a) (by omega),
    ofNat_of_toNat (b := b) (by omega), ofNat_of_toNat (b := c) (by omega)]

theorem encodeChar_four {a b c d : UInt8} (first : 0xF0 ≤ a.toNat ∧ a.toNat ≤ 0xF4)
    (second : 0x80 ≤ b.toNat ∧ b.toNat ≤ 0xBF) (long : a.toNat = 0xF0 → 0x90 ≤ b.toNat)
    (scalar : a.toNat = 0xF4 → b.toNat ≤ 0x8F) (third : 0x80 ≤ c.toNat ∧ c.toNat ≤ 0xBF)
    (fourth : 0x80 ≤ d.toNat ∧ d.toNat ≤ 0xBF) :
    encodeChar (Char.ofNat
      ((((a.toNat - 0xF0) * 64 + (b.toNat - 0x80)) * 64 + (c.toNat - 0x80)) * 64 +
        (d.toNat - 0x80))) = [a, b, c, d] := by
  rw [encodeChar, toNat_ofNat (by unfold Nat.isValidChar; omega), if_neg (by omega),
    if_neg (by omega), if_neg (by omega), ofNat_of_toNat (b := a) (by omega),
    ofNat_of_toNat (b := b) (by omega), ofNat_of_toNat (b := c) (by omega),
    ofNat_of_toNat (b := d) (by omega)]

/-- A leading byte announces two, three or four bytes, and a range of the second byte that leaves
out what has a shorter form and what is no character. -/
theorem leadOf_cases {n : Nat} {lead : Lead} (announced : leadOf n = some lead) :
    (lead = ⟨n - 0xC0, 0x80, 0xBF, 0⟩ ∧ 0xC2 ≤ n ∧ n ≤ 0xDF) ∨
      (∃ low high, lead = ⟨n - 0xE0, low, high, 1⟩ ∧ (0xE0 ≤ n ∧ n ≤ 0xEF) ∧
        0x80 ≤ low ∧ high ≤ 0xBF ∧ (n = 0xE0 → 0xA0 ≤ low) ∧ (n = 0xED → high ≤ 0x9F)) ∨
      ∃ low high, lead = ⟨n - 0xF0, low, high, 2⟩ ∧ (0xF0 ≤ n ∧ n ≤ 0xF4) ∧
        0x80 ≤ low ∧ high ≤ 0xBF ∧ (n = 0xF0 → 0x90 ≤ low) ∧ (n = 0xF4 → high ≤ 0x8F) := by
  unfold leadOf at announced
  split at announced
  · exact .inl ⟨(Option.some.inj announced).symm, ‹_›⟩
  split at announced
  · subst n
    exact .inr (.inl ⟨_, _, (Option.some.inj announced).symm, by decide⟩)
  split at announced
  · subst n
    exact .inr (.inl ⟨_, _, (Option.some.inj announced).symm, by decide⟩)
  split at announced
  · exact .inr (.inl ⟨_, _, (Option.some.inj announced).symm, by omega, by omega⟩)
  split at announced
  · subst n
    exact .inr (.inr ⟨_, _, (Option.some.inj announced).symm, by decide⟩)
  split at announced
  · exact .inr (.inr ⟨_, _, (Option.some.inj announced).symm, by omega, by omega⟩)
  split at announced
  · subst n
    exact .inr (.inr ⟨_, _, (Option.some.inj announced).symm, by decide⟩)
  · cases announced

/-- Whichever bytes continue the character at hand and end it, they are its bytes together with
those taken so far. -/
def Promises (taken : List UInt8) (payload low high : Nat) : Nat → Prop
  | 0 => ∀ b : UInt8, low ≤ b.toNat ∧ b.toNat ≤ high →
    encodeChar (Char.ofNat (payload * 64 + (b.toNat - 0x80))) = taken.reverse ++ [b]
  | more + 1 => ∀ b : UInt8, low ≤ b.toNat ∧ b.toNat ≤ high →
    Promises (b :: taken) (payload * 64 + (b.toNat - 0x80)) 0x80 0xBF more

theorem promises_of_lead {a : UInt8} {lead : Lead} (announced : leadOf a.toNat = some lead) :
    Promises [a] lead.payload lead.low lead.high lead.more := by
  rcases leadOf_cases announced with ⟨rfl, first⟩ |
    ⟨low, high, rfl, first, bottom, top, long, scalar⟩ |
    ⟨low, high, rfl, first, bottom, top, long, scalar⟩
  · intro b second
    exact encodeChar_two first second
  · intro b second c third
    dsimp only at second
    exact encodeChar_three first (by omega) (by omega) (by omega) third
  · intro b second c third d fourth
    dsimp only at second
    exact encodeChar_four first (by omega) (by omega) (by omega) third fourth

/-- The bytes that the decoder reads from a state on are those of a text, after the bytes that it
has taken of the character at hand. -/
def State.Reads (s : List Char) (bytes : List UInt8) : State → Prop
  | .start => bytes = encode s
  | .within taken payload low high more =>
    Promises taken payload low high more → taken.reverse ++ bytes = encode s

theorem reads_of_decodeFrom {state : State} {position : Nat} {done s : List Char}
    {bytes : List UInt8} (read : decodeFrom state position done bytes = .ok s) :
    ∃ more, s = done.reverse ++ more ∧ state.Reads more bytes := by
  fun_induction decodeFrom state position done bytes with
  | case1 position done =>
    cases read
    exact ⟨[], by simp, rfl⟩
  | case2 => cases read
  | case3 position done b rest small ih =>
    obtain ⟨more, rfl, same⟩ := ih read
    refine ⟨Char.ofNat b.toNat :: more, by simp, ?_⟩
    change b :: rest = encodeChar _ ++ encode more
    rw [encodeChar_one small, ← (same : rest = _)]
    rfl
  | case4 => cases read
  | case5 position done b rest long lead announced ih =>
    obtain ⟨more, rfl, same⟩ := ih read
    exact ⟨more, rfl, same (promises_of_lead announced)⟩
  | case6 taken payload low high position done b rest inside payload' ih =>
    obtain ⟨more, rfl, same⟩ := ih read
    refine ⟨Char.ofNat payload' :: more, by simp, fun promises => ?_⟩
    change taken.reverse ++ b :: rest = encodeChar _ ++ encode more
    rw [promises b inside, ← (same : rest = _), List.append_assoc, List.singleton_append]
  | case7 taken payload low high position done b rest inside payload' further ih =>
    obtain ⟨more, rfl, same⟩ := ih read
    refine ⟨more, rfl, fun promises => ?_⟩
    rw [← same (promises b inside), List.reverse_cons, List.append_assoc, List.singleton_append]
  | case8 => cases read

/-- A sequence of bytes is read exactly if it encodes a text, and as that text. -/
theorem decode_eq_ok_iff {bytes : List UInt8} {s : List Char} :
    decode bytes = .ok s ↔ bytes = encode s := by
  constructor
  · intro read
    obtain ⟨more, rfl, same⟩ := reads_of_decodeFrom read
    exact same
  · rintro rfl
    exact decode_encode s

/-- Reading in blocks changes nothing but how a fault is told. -/
theorem decodeBlocks_eq_ok_iff {size : Nat} {bytes : List UInt8} {s : List Char} :
    decodeBlocks size bytes = .ok s ↔ bytes = encode s := by
  rw [← decode_eq_ok_iff]
  unfold decodeBlocks
  cases decode bytes with
  | ok text => rfl
  | error fault =>
    dsimp only
    cases fault.reason <;> simp

end Utf8

/-! ## Lines -/

theorem universalNewlines_eq_self {s : List Char} (none : '\r' ∉ s) : universalNewlines s = s := by
  fun_induction universalNewlines s with
  | case1 => rfl
  | case2 rest ih => simp at none
  | case3 c rest _ ih =>
    have other : c ≠ '\r' := fun same => none (by simp [same])
    rw [if_neg other, ih fun later => none (List.mem_cons_of_mem _ later)]

/-- A line without boundaries in it ends at the line feed behind it. -/
theorem splitLines_append {line : List Char} (whole : ∀ c ∈ line, isLineBoundary c = false)
    (rest : List Char) : splitLines (line ++ '\n' :: rest) = line :: splitLines rest := by
  induction line with
  | nil => simp [splitLines, isLineBoundary]
  | cons c line ih =>
    have inside : isLineBoundary c = false := whole c (by simp)
    have other : c ≠ '\r' := by rintro rfl; simp [isLineBoundary] at inside
    have split := ih fun d member => whole d (List.mem_cons_of_mem _ member)
    rw [List.cons_append, splitLines, inside, split]
    · simp
    · intro rest' same
      exact absurd same other

/-- Lines without boundaries in them come back from the text that ends each of them. -/
theorem splitLines_terminated {lines : List (List Char)}
    (whole : ∀ line ∈ lines, ∀ c ∈ line, isLineBoundary c = false) :
    splitLines (universalNewlines (terminated '\n' lines)) = lines := by
  have noReturn : '\r' ∉ terminated '\n' lines := by
    simp only [terminated, List.mem_flatMap, List.mem_append, List.mem_singleton]
    rintro ⟨line, member, inside | same⟩
    · have boundary := whole line member '\r' inside
      simp [isLineBoundary] at boundary
    · cases same
  rw [universalNewlines_eq_self noReturn, terminated]
  clear noReturn
  induction lines with
  | nil => rfl
  | cons line rest ih =>
    rw [List.flatMap_cons, List.append_assoc, List.singleton_append,
      splitLines_append (whole line (by simp)),
      ih fun other member => whole other (List.mem_cons_of_mem _ member)]

/-- No line of a text has a line boundary in it. -/
theorem splitLines_whole {s line : List Char} (member : line ∈ splitLines s) :
    ∀ c ∈ line, isLineBoundary c = false := by
  fun_induction splitLines s generalizing line with
  | case1 => cases member
  | case2 rest ih =>
    rcases List.mem_cons.mp member with rfl | later
    · simp
    · exact ih later
  | case3 c rest _ boundary ih =>
    rcases List.mem_cons.mp member with rfl | later
    · simp
    · exact ih later
  | case4 c rest _ inside none ih =>
    rw [List.mem_singleton.mp member]
    simpa using inside
  | case5 c rest _ inside first lines split ih =>
    rw [split] at ih
    rcases List.mem_cons.mp member with rfl | later
    · exact List.forall_mem_cons.mpr ⟨by simpa using inside, ih (by simp)⟩
    · exact ih (List.mem_cons_of_mem _ later)

end Provenance.Text
