import ScanFilter.Text.Utf8
/-!
# Strict reading of UTF-8

The scan of a byte string takes the bytes of a character back to that
character.  The first byte says how many bytes follow and which code points they
can reach; every byte after it adds six bits.  A character is no surrogate and
lies below `0x110000`, which is exactly what the narrowed ranges after the first
bytes `0xE0`, `0xED`, `0xF0` and `0xF4` leave room for.  For the same reason no
other bytes are read as that character: whatever completes the bytes that the scan
has seen so far gives the encoding of the character that they complete.

* `pieces_encodeChar` — the bytes of a character scan as that character;
* `decode_encode` — reading a text back from its bytes gives the text;
* `awaits_first` — what the first byte of a character leaves to come;
* `encode_of_decode` — only the bytes of a text are read as that text.
-/

namespace ScanFilter.Utf8

/-- A byte made of a small number has that number. -/
theorem toNat_byte {n : Nat} (h : n < 256) : (UInt8.ofNat n).toNat = n := by
  rw [UInt8.toNat_ofNat']
  exact Nat.mod_eq_of_lt h

/-- The code point of a character is no surrogate and lies below `0x110000`. -/
theorem toNat_valid (c : Char) :
    c.toNat < 0xD800 ∨ 0xDFFF < c.toNat ∧ c.toNat < 0x110000 :=
  c.valid

/-- What the first byte of two says. -/
theorem first_of_two {b : UInt8} (h : 0xC2 ≤ b.toNat ∧ b.toNat ≤ 0xDF) :
    first b = ([], .within 1 1 0x80 0xBF (b.toNat - 0xC0)) := by
  have large : ¬ b.toNat < 0x80 := by omega
  simp only [first, if_neg large, if_pos h]

/-- What the first byte of three says: the byte after `0xE0` starts late, so that
no shorter form is missed, and the one after `0xED` ends early, in front of the
surrogates. -/
theorem first_of_three {b : UInt8} (h : 0xE0 ≤ b.toNat ∧ b.toNat ≤ 0xEF) :
    first b = ([], .within 1 2 (if b.toNat = 0xE0 then 0xA0 else 0x80)
      (if b.toNat = 0xED then 0x9F else 0xBF) (b.toNat - 0xE0)) := by
  have large : ¬ b.toNat < 0x80 := by omega
  have notTwo : ¬ (0xC2 ≤ b.toNat ∧ b.toNat ≤ 0xDF) := by omega
  simp only [first, if_neg large, if_neg notTwo]
  by_cases low : b.toNat = 0xE0
  · simp [low]
  · by_cases high : b.toNat = 0xED
    · simp [high]
    · have inner : 0xE1 ≤ b.toNat ∧ b.toNat ≤ 0xEF := by omega
      simp only [if_neg low, if_neg high, if_pos inner]

/-- What the first byte of four says: the byte after `0xF0` starts late, and the
one after `0xF4` ends early, in front of `0x110000`. -/
theorem first_of_four {b : UInt8} (h : 0xF0 ≤ b.toNat ∧ b.toNat ≤ 0xF4) :
    first b = ([], .within 1 3 (if b.toNat = 0xF0 then 0x90 else 0x80)
      (if b.toNat = 0xF4 then 0x8F else 0xBF) (b.toNat - 0xF0)) := by
  have large : ¬ b.toNat < 0x80 := by omega
  have notTwo : ¬ (0xC2 ≤ b.toNat ∧ b.toNat ≤ 0xDF) := by omega
  have notThree : ¬ (0xE1 ≤ b.toNat ∧ b.toNat ≤ 0xEF) := by omega
  have notLow : ¬ b.toNat = 0xE0 := by omega
  have notHigh : ¬ b.toNat = 0xED := by omega
  simp only [first, if_neg large, if_neg notTwo, if_neg notLow, if_neg notHigh,
    if_neg notThree]
  by_cases low : b.toNat = 0xF0
  · simp [low]
  · by_cases high : b.toNat = 0xF4
    · simp [high]
    · have inner : 0xF1 ≤ b.toNat ∧ b.toNat ≤ 0xF3 := by omega
      simp only [if_neg low, if_neg high, if_pos inner]

/-- A first byte that completes nothing leaves the scan inside a character. -/
theorem pieces_first {b : UInt8} {state : State} (h : first b = ([], state))
    (rest : List UInt8) : pieces (b :: rest) = piecesFrom state rest := by
  simp only [pieces, piecesFrom, step, h, List.nil_append]

variable {seen owed low high bits : Nat}

/-- A byte in range that is not the last one adds six bits. -/
theorem piecesFrom_within {b : UInt8} (h : low ≤ b.toNat ∧ b.toNat ≤ high)
    (more : 1 < owed) (rest : List UInt8) :
    piecesFrom (.within seen owed low high bits) (b :: rest)
      = piecesFrom (.within (seen + 1) (owed - 1) 0x80 0xBF
          (bits * 0x40 + (b.toNat - 0x80))) rest := by
  have notLast : ¬ owed ≤ 1 := by omega
  simp only [piecesFrom, step, if_pos h, if_neg notLast, List.nil_append]

/-- A byte in range that is the last one completes the character. -/
theorem piecesFrom_last {b : UInt8} (h : low ≤ b.toNat ∧ b.toNat ≤ high)
    (rest : List UInt8) :
    piecesFrom (.within seen 1 low high bits) (b :: rest)
      = .char (Char.ofNat (bits * 0x40 + (b.toNat - 0x80))) :: pieces rest := by
  simp only [piecesFrom, step, if_pos h, Nat.le_refl, if_true, pieces, List.cons_append,
    List.nil_append]

/-- A character of two bytes scans as itself. -/
theorem pieces_two {n : Nat} (low : 0x80 ≤ n) (high : n < 0x800) (rest : List UInt8) :
    pieces (UInt8.ofNat (0xC0 + n / 0x40) :: UInt8.ofNat (0x80 + n % 0x40) :: rest)
      = .char (Char.ofNat n) :: pieces rest := by
  have h0 : (UInt8.ofNat (0xC0 + n / 0x40)).toNat = 0xC0 + n / 0x40 := toNat_byte (by omega)
  have h1 : (UInt8.ofNat (0x80 + n % 0x40)).toNat = 0x80 + n % 0x40 := toNat_byte (by omega)
  rw [pieces_first (first_of_two (by omega)), piecesFrom_last (by omega), h0, h1]
  have sum : (0xC0 + n / 0x40 - 0xC0) * 0x40 + (0x80 + n % 0x40 - 0x80) = n := by omega
  rw [sum]

/-- A character of three bytes that is no surrogate scans as itself. -/
theorem pieces_three {n : Nat} (low : 0x800 ≤ n) (high : n < 0x10000)
    (valid : n < 0xD800 ∨ 0xDFFF < n) (rest : List UInt8) :
    pieces (UInt8.ofNat (0xE0 + n / 0x1000) :: UInt8.ofNat (0x80 + n / 0x40 % 0x40)
        :: UInt8.ofNat (0x80 + n % 0x40) :: rest)
      = .char (Char.ofNat n) :: pieces rest := by
  have h0 : (UInt8.ofNat (0xE0 + n / 0x1000)).toNat = 0xE0 + n / 0x1000 :=
    toNat_byte (by omega)
  have h1 : (UInt8.ofNat (0x80 + n / 0x40 % 0x40)).toNat = 0x80 + n / 0x40 % 0x40 :=
    toNat_byte (by omega)
  have h2 : (UInt8.ofNat (0x80 + n % 0x40)).toNat = 0x80 + n % 0x40 := toNat_byte (by omega)
  rw [pieces_first (first_of_three (by omega)), piecesFrom_within ?_ (by decide),
    piecesFrom_last (by omega), h0, h1, h2]
  · have sum : ((0xE0 + n / 0x1000 - 0xE0) * 0x40 + (0x80 + n / 0x40 % 0x40 - 0x80)) * 0x40
        + (0x80 + n % 0x40 - 0x80) = n := by omega
    rw [sum]
  · rw [h0, h1]
    constructor <;> split <;> omega

/-- A character of four bytes scans as itself. -/
theorem pieces_four {n : Nat} (low : 0x10000 ≤ n) (high : n < 0x110000)
    (rest : List UInt8) :
    pieces (UInt8.ofNat (0xF0 + n / 0x40000) :: UInt8.ofNat (0x80 + n / 0x1000 % 0x40)
        :: UInt8.ofNat (0x80 + n / 0x40 % 0x40) :: UInt8.ofNat (0x80 + n % 0x40) :: rest)
      = .char (Char.ofNat n) :: pieces rest := by
  have h0 : (UInt8.ofNat (0xF0 + n / 0x40000)).toNat = 0xF0 + n / 0x40000 :=
    toNat_byte (by omega)
  have h1 : (UInt8.ofNat (0x80 + n / 0x1000 % 0x40)).toNat = 0x80 + n / 0x1000 % 0x40 :=
    toNat_byte (by omega)
  have h2 : (UInt8.ofNat (0x80 + n / 0x40 % 0x40)).toNat = 0x80 + n / 0x40 % 0x40 :=
    toNat_byte (by omega)
  have h3 : (UInt8.ofNat (0x80 + n % 0x40)).toNat = 0x80 + n % 0x40 := toNat_byte (by omega)
  rw [pieces_first (first_of_four (by omega)), piecesFrom_within ?_ (by decide),
    piecesFrom_within (by omega) (by decide), piecesFrom_last (by omega), h0, h1, h2, h3]
  · have sum : (((0xF0 + n / 0x40000 - 0xF0) * 0x40 + (0x80 + n / 0x1000 % 0x40 - 0x80)) * 0x40
        + (0x80 + n / 0x40 % 0x40 - 0x80)) * 0x40 + (0x80 + n % 0x40 - 0x80) = n := by omega
    rw [sum]
  · rw [h0, h1]
    constructor <;> split <;> omega

/-- The bytes of a character scan as that character. -/
theorem pieces_encodeChar (c : Char) (rest : List UInt8) :
    pieces (encodeChar c ++ rest) = .char c :: pieces rest := by
  have valid := toNat_valid c
  have back : Char.ofNat c.toNat = c := Char.ofNat_toNat c
  unfold encodeChar
  simp only
  split
  · next small =>
      have h0 : (UInt8.ofNat c.toNat).toNat = c.toNat := toNat_byte (by omega)
      have scanned := pieces_ascii (b := UInt8.ofNat c.toNat) (by omega) rest
      rwa [h0, back] at scanned
  · split
    · next large small => exact (pieces_two (by omega) small rest).trans (by rw [back])
    · split
      · next large small =>
          exact (pieces_three (by omega) small (by omega) rest).trans (by rw [back])
      · next large => exact (pieces_four (by omega) (by omega) rest).trans (by rw [back])

/-- The bytes of a text scan as its characters. -/
theorem pieces_flatMap (cs : List Char) :
    pieces (cs.flatMap encodeChar) = cs.map Piece.char := by
  induction cs with
  | nil => rfl
  | cons c cs ih =>
      rw [List.flatMap_cons, pieces_encodeChar, ih, List.map_cons]

/-- Pieces that are all characters are read without a fault. -/
theorem characters_map (index : Nat) (cs : List Char) :
    characters index (cs.map Piece.char) = .ok cs := by
  induction cs generalizing index with
  | nil => rfl
  | cons c cs ih => simp only [List.map_cons, characters, ih]

/-- Reading a text back from its bytes gives the text. -/
theorem decode_encode (s : String) : decode (encode s) = .ok s := by
  simp only [decode, encode, pieces_flatMap, characters_map, String.ofList_toList]

/-! ## Nothing else is read -/

/-- The code point of a valid number is the number. -/
theorem toNat_ofNat {n : Nat} (h : n < 0xD800 ∨ 0xDFFF < n ∧ n < 0x110000) :
    (Char.ofNat n).toNat = n := by
  unfold Char.ofNat
  rw [dif_pos (show n.isValidChar from h)]
  rfl

/-- A byte is made of its number. -/
theorem byte_eq {n : Nat} {b : UInt8} (h : n = b.toNat) : UInt8.ofNat n = b := by
  rw [h, UInt8.ofNat_toNat]

/-- The code point that more bytes lead to, six bits each. -/
def codePoint (bits : Nat) (bytes : List UInt8) : Nat :=
  bytes.foldl (fun n b => n * 0x40 + (b.toNat - 0x80)) bits

/-- The bytes that complete a character that owes some: the next one in a range of its
own, the others in the common one. -/
inductive Completes : (owed low high : Nat) → List UInt8 → Prop
  | last {low high : Nat} {b : UInt8} (h : low ≤ b.toNat ∧ b.toNat ≤ high) :
      Completes 1 low high [b]
  | more {owed low high : Nat} {b : UInt8} {rest : List UInt8}
      (h : low ≤ b.toNat ∧ b.toNat ≤ high) (hrest : Completes owed 0x80 0xBF rest) :
      Completes (owed + 1) low high (b :: rest)

/-- Whether a scan stands in a given state after some bytes of one character: bytes that
complete it give the encoding of the character that they complete. -/
def Awaits (front : List UInt8) : State → Prop
  | .between => front = []
  | .within _ owed low high bits =>
    0 < owed ∧ ∀ rest, Completes owed low high rest →
      encodeChar (Char.ofNat (codePoint bits rest)) = front ++ rest

variable {b : UInt8} {front : List UInt8}

theorem awaits_between : Awaits [] .between := rfl

theorem awaits_two (h : 0xC2 ≤ b.toNat ∧ b.toNat ≤ 0xDF) :
    Awaits [b] (.within 1 1 0x80 0xBF (b.toNat - 0xC0)) := by
  refine ⟨by decide, ?_⟩
  intro rest complete
  cases complete with
  | more _ none => cases none
  | @last _ _ c range =>
      have code : codePoint (b.toNat - 0xC0) [c]
          = (b.toNat - 0xC0) * 0x40 + (c.toNat - 0x80) := rfl
      rw [code, encodeChar, toNat_ofNat (by omega)]
      rw [if_neg (by omega), if_pos (by omega), byte_eq (b := b) (by omega),
        byte_eq (b := c) (by omega)]
      rfl

theorem awaits_three (h : 0xE0 ≤ b.toNat ∧ b.toNat ≤ 0xEF) :
    Awaits [b] (.within 1 2 (if b.toNat = 0xE0 then 0xA0 else 0x80)
      (if b.toNat = 0xED then 0x9F else 0xBF) (b.toNat - 0xE0)) := by
  refine ⟨by decide, ?_⟩
  intro rest complete
  cases complete with
  | @more _ _ _ c _ range complete =>
      cases complete with
      | more _ none => cases none
      | @last _ _ d range' =>
          have code : codePoint (b.toNat - 0xE0) [c, d]
              = ((b.toNat - 0xE0) * 0x40 + (c.toNat - 0x80)) * 0x40 + (d.toNat - 0x80) := rfl
          -- Late after `0xE0` and early after `0xED`, as the two ranges say.
          have late : b.toNat = 0xE0 → 0xA0 ≤ c.toNat := fun first => by
            rw [if_pos first] at range
            exact range.1
          have early : b.toNat = 0xED → c.toNat ≤ 0x9F := fun first => by
            rw [if_pos first] at range
            exact range.2
          have common : 0x80 ≤ c.toNat ∧ c.toNat ≤ 0xBF := by
            obtain ⟨least, most⟩ := range
            constructor
            · split at least <;> omega
            · split at most <;> omega
          rw [code, encodeChar, toNat_ofNat (by omega)]
          rw [if_neg (by omega), if_neg (by omega), if_pos (by omega),
            byte_eq (b := b) (by omega), byte_eq (b := c) (by omega),
            byte_eq (b := d) (by omega)]
          rfl

theorem awaits_four (h : 0xF0 ≤ b.toNat ∧ b.toNat ≤ 0xF4) :
    Awaits [b] (.within 1 3 (if b.toNat = 0xF0 then 0x90 else 0x80)
      (if b.toNat = 0xF4 then 0x8F else 0xBF) (b.toNat - 0xF0)) := by
  refine ⟨by decide, ?_⟩
  intro rest complete
  cases complete with
  | @more _ _ _ c _ range complete =>
      cases complete with
      | @more _ _ _ d _ range' complete =>
          cases complete with
          | more _ none => cases none
          | @last _ _ e range'' =>
              have code : codePoint (b.toNat - 0xF0) [c, d, e]
                  = (((b.toNat - 0xF0) * 0x40 + (c.toNat - 0x80)) * 0x40
                    + (d.toNat - 0x80)) * 0x40 + (e.toNat - 0x80) := rfl
              have late : b.toNat = 0xF0 → 0x90 ≤ c.toNat := fun first => by
                rw [if_pos first] at range
                exact range.1
              have early : b.toNat = 0xF4 → c.toNat ≤ 0x8F := fun first => by
                rw [if_pos first] at range
                exact range.2
              have common : 0x80 ≤ c.toNat ∧ c.toNat ≤ 0xBF := by
                obtain ⟨least, most⟩ := range
                constructor
                · split at least <;> omega
                · split at most <;> omega
              rw [code, encodeChar, toNat_ofNat (by omega)]
              rw [if_neg (by omega), if_neg (by omega), if_neg (by omega),
                byte_eq (b := b) (by omega), byte_eq (b := c) (by omega),
                byte_eq (b := d) (by omega), byte_eq (b := e) (by omega)]
              rfl

/-- A first byte is a character, or leaves some to come, or starts no character. -/
theorem awaits_first (b : UInt8) :
    (∃ c, first b = ([.char c], .between) ∧ encodeChar c = [b]) ∨
    (∃ state, first b = ([], state) ∧ Awaits [b] state) ∨
    first b = ([.invalid 1], .between) := by
  by_cases one : b.toNat < 0x80
  · refine .inl ⟨Char.ofNat b.toNat, if_pos one, ?_⟩
    rw [encodeChar, toNat_ofNat (by omega)]
    rw [if_pos one, byte_eq rfl]
  · by_cases two : 0xC2 ≤ b.toNat ∧ b.toNat ≤ 0xDF
    · exact .inr (.inl ⟨_, first_of_two two, awaits_two two⟩)
    · by_cases three : 0xE0 ≤ b.toNat ∧ b.toNat ≤ 0xEF
      · exact .inr (.inl ⟨_, first_of_three three, awaits_three three⟩)
      · by_cases four : 0xF0 ≤ b.toNat ∧ b.toNat ≤ 0xF4
        · exact .inr (.inl ⟨_, first_of_four four, awaits_four four⟩)
        · refine .inr (.inr ?_)
          unfold first
          simp only
          rw [if_neg one, if_neg two, if_neg (by omega), if_neg (by omega),
            if_neg (by omega), if_neg (by omega), if_neg (by omega), if_neg (by omega)]

/-- A byte in range that is the last one completes the encoding. -/
theorem Awaits.last (h : Awaits front (.within seen 1 low high bits))
    (range : low ≤ b.toNat ∧ b.toNat ≤ high) :
    encodeChar (Char.ofNat (bits * 0x40 + (b.toNat - 0x80))) = front ++ [b] :=
  h.2 [b] (.last range)

/-- A byte in range that is not the last one is one more of the bytes seen. -/
theorem Awaits.more (h : Awaits front (.within seen owed low high bits))
    (range : low ≤ b.toNat ∧ b.toNat ≤ high) (several : 1 < owed) :
    Awaits (front ++ [b]) (.within (seen + 1) (owed - 1) 0x80 0xBF
      (bits * 0x40 + (b.toNat - 0x80))) := by
  refine ⟨by omega, ?_⟩
  intro rest complete
  have whole : Completes owed low high (b :: rest) := by
    have step := Completes.more range complete
    rwa [Nat.sub_add_cancel (by omega)] at step
  have encoded := h.2 (b :: rest) whole
  rwa [codePoint, List.foldl_cons, ← List.singleton_append, ← List.append_assoc] at encoded

/-- A text begins with the character that its first piece is. -/
theorem characters_char {index : Nat} {c : Char} {rest : List Piece} {cs : List Char}
    (h : characters index (.char c :: rest) = .ok cs) :
    ∃ ds, cs = c :: ds ∧ characters (index + (encodeChar c).length) rest = .ok ds := by
  rw [characters] at h
  split at h
  · next ds tail =>
      cases h
      exact ⟨ds, rfl, tail⟩
  · cases h

/-- The characters of a scan are encoded by the bytes that were seen and those that
were scanned. -/
theorem flatMap_of_characters {state : State} {bytes : List UInt8} {index : Nat}
    {cs : List Char} (h : Awaits front state)
    (hc : characters index (piecesFrom state bytes) = .ok cs) :
    cs.flatMap encodeChar = front ++ bytes := by
  -- The bytes seen so far grow until a character is complete, and start anew after it.
  induction bytes generalizing state front index cs with
  | nil =>
      cases state with
      | between =>
          cases hc
          rw [show front = [] from h]
          rfl
      | within seen owed low high bits => cases hc
  | cons b bytes ih =>
      cases state with
      | between =>
          rw [show front = [] from h, List.nil_append]
          obtain ⟨c, scanned, encoded⟩ | ⟨state, scanned, awaits⟩ | scanned := awaits_first b
          · simp only [piecesFrom, step, scanned, List.singleton_append] at hc
            obtain ⟨ds, rfl, rest⟩ := characters_char hc
            rw [List.flatMap_cons, encoded, ih awaits_between rest]
            rfl
          · simp only [piecesFrom, step, scanned, List.nil_append] at hc
            exact ih awaits hc
          · simp only [piecesFrom, step, scanned, List.singleton_append] at hc
            cases hc
      | within seen owed low high bits =>
          by_cases range : low ≤ b.toNat ∧ b.toNat ≤ high
          · by_cases last : owed ≤ 1
            · have one : owed = 1 := Nat.le_antisymm last h.1
              rw [one] at h hc
              rw [piecesFrom_last range] at hc
              obtain ⟨ds, rfl, rest⟩ := characters_char hc
              rw [List.flatMap_cons, h.last range, ih awaits_between rest, List.append_assoc]
              rfl
            · rw [piecesFrom_within range (by omega)] at hc
              rw [ih (h.more range (by omega)) hc, List.append_assoc]
              rfl
          · simp only [piecesFrom, step, if_neg range, List.cons_append] at hc
            cases hc

/-- Only the bytes of a text are read as that text. -/
theorem encode_of_decode {bytes : List UInt8} {s : String} (h : decode bytes = .ok s) :
    encode s = bytes := by
  unfold decode at h
  cases scanned : characters 0 (pieces bytes) with
  | error fault =>
      rw [scanned] at h
      cases h
  | ok cs =>
      rw [scanned] at h
      cases h
      rw [encode, String.toList_ofList]
      exact flatMap_of_characters awaits_between scanned

end ScanFilter.Utf8
