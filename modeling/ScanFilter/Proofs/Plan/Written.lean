import ScanFilter.Proofs.Decimal.Text
import ScanFilter.Proofs.Expr.Nodes
import ScanFilter.Proofs.Plan.Reads
/-!
# The ways to write a tree

There is one way to write every field of a tree but a decimal, which may be spelled by
any text that denotes it.  So some bytes are **written** for a tree when they are its
plan bytes up to the spelling of the decimals, which a relation between decimals and
texts allows.  The decoder reads a tree from everything that is written for it; and
where the decimals are spelled as they are printed, that is the plan bytes of the tree.

* `Written` — the bytes that are written for a tree;
* `Written.reads`, `decode_of_written` — the tree is read from them;
* `Written.weight_le` — they are eight for every node, and those that the nodes hold;
* `encode_of_printed` — with the decimals spelled as printed, they are its plan bytes.
-/

namespace ScanFilter

/-- Which texts may stand for a decimal. -/
abbrev Spelling := Decimal → String → Prop

namespace Spelling

/-- Every text that denotes the decimal. -/
def denoting : Spelling := fun d s => Decimal.ofText s.toList = .ok d

/-- A text that denotes the decimal and that is printed for some decimal. -/
def printed : Spelling := fun d s =>
  denoting d s ∧ ∃ shown : Decimal, s = String.ofList shown.text

end Spelling

/-- How many bytes of text or of a byte string a payload holds.  A decimal is a number,
and does not hold the text that spells it. -/
def Payload.heldBytes : Payload → Nat
  | string s => (Utf8.encode s).length
  | binary bytes => bytes.length
  | _ => 0

namespace Expr

mutual

/-- How many bytes the texts, the byte strings and the column names of a tree have. -/
def heldBytes : Expr → Nat
  | literal v => v.payload.heldBytes
  | column c => c.byteLength
  | comparison _ a b => heldBytes a + heldBytes b
  | logical _ a b => heldBytes a + heldBytes b
  | unary _ a => heldBytes a
  | membership a ms _ => heldBytes a + heldByMembers ms

/-- How many bytes those of a list of trees have. -/
def heldByMembers : List Expr → Nat
  | [] => 0
  | a :: as => heldBytes a + heldByMembers as

end

end Expr

namespace Plan

variable {spelling : Spelling}

/-- The bytes that are written for the content of a payload. -/
inductive WrittenPayload (spelling : Spelling) : Payload → List UInt8 → Prop
  | decimal {d : Decimal} {s : String} (spelled : spelling d s)
      (fits : IsWord (Utf8.encode s).length) : WrittenPayload spelling (.decimal d) (text s)
  | plain {p : Payload} (plain : ∀ d, p ≠ .decimal d) (fits : IsWord p.byteLength) :
      WrittenPayload spelling p (payloadContent p)

/-- The bytes that are written for a value. -/
inductive WrittenValue (spelling : Spelling) : TypedValue → List UInt8 → Prop
  | mk {v : TypedValue} {content : List UInt8}
      (hcontent : WrittenPayload spelling v.payload content) :
      WrittenValue spelling v (choice DataType.all v.dataType
        ++ choice PayloadTag.all (.ofPayload v.payload) ++ content)

mutual

/-- The bytes that are written for a tree.  The length of a text, a byte string or a
list has to fit the word in front of it. -/
inductive Written (spelling : Spelling) : Expr → List UInt8 → Prop
  | literal {v : TypedValue} {content : List UInt8} (hv : WrittenValue spelling v content) :
      Written spelling (.literal v) (choice ExprTag.all .literal ++ content)
  | column {c : Column} (fits : IsWord c.byteLength) :
      Written spelling (.column c) (choice ExprTag.all .column ++ column c)
  | comparison {op : ComparisonOperator} {a b : Expr} {xs ys : List UInt8}
      (ha : Written spelling a xs) (hb : Written spelling b ys) :
      Written spelling (.comparison op a b)
        (choice ExprTag.all .comparison ++ choice ComparisonOperator.all op ++ xs ++ ys)
  | logical {op : LogicalOperator} {a b : Expr} {xs ys : List UInt8}
      (ha : Written spelling a xs) (hb : Written spelling b ys) :
      Written spelling (.logical op a b)
        (choice ExprTag.all .logical ++ choice LogicalOperator.all op ++ xs ++ ys)
  | unary {op : UnaryOperator} {a : Expr} {xs : List UInt8} (ha : Written spelling a xs) :
      Written spelling (.unary op a)
        (choice ExprTag.all .unary ++ choice UnaryOperator.all op ++ xs)
  | membership {a : Expr} {ms : List Expr} {negated : Bool} {xs ys : List UInt8}
      (ha : Written spelling a xs) (hms : WrittenMembers spelling ms ys)
      (fits : IsWord ms.length) :
      Written spelling (.membership a ms negated)
        (choice ExprTag.all .membership ++ xs ++ lengthWord ms.length ++ ys ++ truth negated)

/-- The bytes that are written for a list of trees. -/
inductive WrittenMembers (spelling : Spelling) : List Expr → List UInt8 → Prop
  | nil : WrittenMembers spelling [] []
  | cons {a : Expr} {as : List Expr} {xs ys : List UInt8} (ha : Written spelling a xs)
      (has : WrittenMembers spelling as ys) : WrittenMembers spelling (a :: as) (xs ++ ys)

end

/-! ## A tree is read from what is written for it -/

theorem WrittenPayload.reads {p : Payload} {content : List UInt8}
    (h : WrittenPayload .denoting p content) :
    Reads (Decoder.payloadContent (.ofPayload p)) content p := by
  cases h with
  | decimal spelled fits => exact (reads_decimal spelled fits).map Payload.decimal
  | plain plain fits => exact reads_payloadContent plain fits

theorem WrittenValue.reads {v : TypedValue} {content : List UInt8}
    (h : WrittenValue .denoting v content) : Reads Decoder.typedValue content v := by
  cases h with
  | mk hcontent =>
      have type : Reads (Decoder.choice DataType.all) (choice DataType.all v.dataType)
          v.dataType := reads_choice v.dataType.mem_all (by decide)
      have tag : Reads (Decoder.choice PayloadTag.all)
          (choice PayloadTag.all (.ofPayload v.payload)) (.ofPayload v.payload) :=
        reads_choice (PayloadTag.mem_all _) (by decide)
      have rest := hcontent.reads.map (TypedValue.mk v.dataType)
      rw [List.append_assoc]
      exact type.bind (tag.bind rest)

theorem reads_tag (t : ExprTag) :
    Reads (Decoder.choice ExprTag.all) (choice ExprTag.all t) t :=
  reads_choice t.mem_all (by decide)

/-- Members are read one by one. -/
theorem reads_members {levels : Nat} {ms : List Expr} {front : List UInt8}
    (h : ∀ m ∈ ms, ∀ xs, Written .denoting m xs → Reads (Decoder.expr levels) xs m)
    (hms : WrittenMembers .denoting ms front) :
    Reads (Decoder.times (Decoder.expr levels) ms.length) front ms := by
  induction ms generalizing front with
  | nil =>
      cases hms
      exact reads_pure []
  | cons m ms ih =>
      cases hms with
      | @cons _ _ xs ys hm hms =>
          have rest := ih (fun n hn => h n (List.mem_cons_of_mem m hn)) hms
          exact (h m List.mem_cons_self xs hm).bind (rest.map (m :: ·))

/-- A decoder with levels for every node has a level for the root. -/
theorem succ_of_size_le {e : Expr} {levels : Nat} (h : e.size ≤ levels) :
    ∃ k, levels = k + 1 := by
  have root := e.size_pos
  exact ⟨levels - 1, by omega⟩

/-- A tree is read from what is written for it, by a decoder of as many levels as it has
nodes. -/
theorem Written.reads {e : Expr} {front : List UInt8} (h : Written .denoting e front) :
    ∀ levels, e.size ≤ levels → Reads (Decoder.expr levels) front e := by
  intro levels
  -- The levels go down by one at every node, the sizes of the operands by more.
  induction e using Expr.induction generalizing front levels with
  | literal v =>
      intro deep
      obtain ⟨k, rfl⟩ := succ_of_size_le deep
      cases h with
      | literal hv => exact (reads_tag .literal).bind (hv.reads.map Expr.literal)
  | column c =>
      intro deep
      obtain ⟨k, rfl⟩ := succ_of_size_le deep
      cases h with
      | column fits => exact (reads_tag .column).bind ((reads_column fits).map Expr.column)
  | comparison op a b iha ihb =>
      intro deep
      obtain ⟨k, rfl⟩ := succ_of_size_le deep
      rw [Expr.size] at deep
      cases h with
      | comparison ha hb =>
          have operator : Reads (Decoder.choice ComparisonOperator.all)
              (choice ComparisonOperator.all op) op := reads_choice op.mem_all (by decide)
          have left := iha ha k (by omega)
          have right := (ihb hb k (by omega)).map (Expr.comparison op a)
          simp only [List.append_assoc]
          exact (reads_tag .comparison).bind (operator.bind (left.bind right))
  | logical op a b iha ihb =>
      intro deep
      obtain ⟨k, rfl⟩ := succ_of_size_le deep
      rw [Expr.size] at deep
      cases h with
      | logical ha hb =>
          have operator : Reads (Decoder.choice LogicalOperator.all)
              (choice LogicalOperator.all op) op := reads_choice op.mem_all (by decide)
          have left := iha ha k (by omega)
          have right := (ihb hb k (by omega)).map (Expr.logical op a)
          simp only [List.append_assoc]
          exact (reads_tag .logical).bind (operator.bind (left.bind right))
  | unary op a iha =>
      intro deep
      obtain ⟨k, rfl⟩ := succ_of_size_le deep
      rw [Expr.size] at deep
      cases h with
      | unary ha =>
          have operator : Reads (Decoder.choice UnaryOperator.all)
              (choice UnaryOperator.all op) op := reads_choice op.mem_all (by decide)
          have operand := (iha ha k (by omega)).map (Expr.unary op)
          simp only [List.append_assoc]
          exact (reads_tag .unary).bind (operator.bind operand)
  | membership a ms negated iha ihms =>
      intro deep
      obtain ⟨k, rfl⟩ := succ_of_size_le deep
      rw [Expr.size] at deep
      cases h with
      | @membership _ _ _ xs ys ha hms fits =>
          have probe := iha ha k (by omega)
          have length : Reads (Decoder.word 8) (lengthWord ms.length) ms.length :=
            reads_lengthWord fits
          have members : Reads (Decoder.times (Decoder.expr k) ms.length) ys ms := by
            apply reads_members _ hms
            intro m hm zs hzs
            have small := Expr.size_le_sizeMembers hm
            exact ihms m hm hzs k (by omega)
          have flag := (reads_truth negated).map (Expr.membership a ms)
          simp only [List.append_assoc]
          exact (reads_tag .membership).bind (probe.bind (length.bind (members.bind flag)))

/-- What is written for a payload has the bytes that the payload holds. -/
theorem WrittenPayload.heldBytes_le {p : Payload} {content : List UInt8}
    (h : WrittenPayload spelling p content) : p.heldBytes ≤ content.length := by
  cases h with
  | decimal spelled fits => exact Nat.zero_le _
  | plain plain fits =>
      cases p with
      | string s =>
          rw [payloadContent, text, blob, List.length_append]
          exact Nat.le_add_left ..
      | binary bytes =>
          rw [payloadContent, blob, List.length_append]
          exact Nat.le_add_left ..
      | _ => exact Nat.zero_le _

/-- What is written for a column has its index and the bytes of its name. -/
theorem byteLength_le_column (c : Column) : 8 + c.byteLength ≤ (column c).length := by
  unfold column optionalText Column.byteLength
  rw [List.length_append, Bytes.length_littleEndian]
  cases c.label with
  | none => simp
  | some s =>
      simp only [text, blob, List.length_cons, List.length_append]
      omega

/-- What is written for a list of trees has eight bytes for every node and the bytes
that the nodes hold, if that is so for each tree. -/
theorem WrittenMembers.weight_le {ms : List Expr} {front : List UInt8}
    (h : ∀ m ∈ ms, ∀ xs, Written spelling m xs → 8 * m.size + m.heldBytes ≤ xs.length)
    (hms : WrittenMembers spelling ms front) :
    8 * Expr.sizeMembers ms + Expr.heldByMembers ms ≤ front.length := by
  induction ms generalizing front with
  | nil => exact Nat.zero_le _
  | cons m ms ih =>
      cases hms with
      | @cons _ _ xs ys hm hms =>
          have head := h m List.mem_cons_self xs hm
          have tail := ih (fun n hn => h n (List.mem_cons_of_mem m hn)) hms
          rw [Expr.sizeMembers, Expr.heldByMembers, List.length_append]
          omega

/-- What is written for a tree has eight bytes for every node and the bytes that the
nodes hold. -/
theorem Written.weight_le {e : Expr} {front : List UInt8} (h : Written spelling e front) :
    8 * e.size + e.heldBytes ≤ front.length := by
  induction e using Expr.induction generalizing front with
  | literal v =>
      cases h with
      | literal hv =>
          cases hv with
          | mk hcontent =>
              have content := hcontent.heldBytes_le
              simp only [Expr.size, Expr.heldBytes, List.length_append, length_choice]
              omega
  | column c =>
      cases h
      have name := byteLength_le_column c
      simp only [Expr.size, Expr.heldBytes, List.length_append, length_choice]
      omega
  | comparison op a b iha ihb =>
      cases h with
      | comparison ha hb =>
          have left := iha ha
          have right := ihb hb
          simp only [Expr.size, Expr.heldBytes, List.length_append, length_choice]
          omega
  | logical op a b iha ihb =>
      cases h with
      | logical ha hb =>
          have left := iha ha
          have right := ihb hb
          simp only [Expr.size, Expr.heldBytes, List.length_append, length_choice]
          omega
  | unary op a iha =>
      cases h with
      | unary ha =>
          have operand := iha ha
          simp only [Expr.size, Expr.heldBytes, List.length_append, length_choice]
          omega
  | membership a ms negated iha ihms =>
      cases h with
      | membership ha hms fits =>
          have probe := iha ha
          have members := hms.weight_le (fun m hm xs hxs => ihms m hm hxs)
          simp only [Expr.size, Expr.heldBytes, List.length_append, length_choice,
            length_lengthWord]
          omega

/-- What is written for a tree has at least as many bytes as nodes. -/
theorem Written.size_le {e : Expr} {front : List UInt8} (h : Written spelling e front) :
    e.size ≤ front.length := by
  have weight := h.weight_le
  omega

/-- Bytes that begin with what is written for a tree decode to that tree. -/
theorem decode_of_written {e : Expr} {front : List UInt8} (h : Written .denoting e front)
    (rest : List UInt8) : decode (front ++ rest) = .ok e := by
  have deep : e.size ≤ (front ++ rest).length := by
    have size := h.size_le
    rw [List.length_append]
    omega
  unfold decode
  rw [h.reads _ deep rest]

/-! ## Decimals that are spelled as they are printed -/

/-- What is printed for some decimal is printed for the one that it denotes. -/
theorem eq_text_of_printed {d : Decimal} {s : String} (h : Spelling.printed d s) :
    s = String.ofList d.text := by
  obtain ⟨denotes, shown, rfl⟩ := h
  unfold Spelling.denoting at denotes
  rw [String.toList_ofList, Decimal.ofText_text] at denotes
  cases denotes
  rw [Decimal.text_canonical]

theorem payloadContent_of_printed {p : Payload} {content : List UInt8}
    (h : WrittenPayload .printed p content) : payloadContent p = content := by
  cases h with
  | decimal spelled fits => rw [eq_text_of_printed spelled, payloadContent]
  | plain plain fits => rfl

theorem encodeMembers_of_printed {ms : List Expr} {front : List UInt8}
    (h : ∀ m ∈ ms, ∀ xs, Written .printed m xs → encode m = xs)
    (hms : WrittenMembers .printed ms front) : encodeMembers ms = front := by
  induction ms generalizing front with
  | nil =>
      cases hms
      rfl
  | cons m ms ih =>
      cases hms with
      | @cons _ _ xs ys hm hms =>
          rw [encodeMembers, h m List.mem_cons_self xs hm,
            ih (fun n hn => h n (List.mem_cons_of_mem m hn)) hms]

/-- With the decimals spelled as printed, the plan bytes of a tree are all that is
written for it. -/
theorem encode_of_printed {e : Expr} {front : List UInt8} (h : Written .printed e front) :
    encode e = front := by
  induction e using Expr.induction generalizing front with
  | literal v =>
      cases h with
      | literal hv =>
          cases hv with
          | mk hcontent => rw [encode, typedValue, payloadContent_of_printed hcontent]
  | column c =>
      cases h
      rfl
  | comparison op a b iha ihb =>
      cases h with
      | comparison ha hb => rw [encode, iha ha, ihb hb]
  | logical op a b iha ihb =>
      cases h with
      | logical ha hb => rw [encode, iha ha, ihb hb]
  | unary op a iha =>
      cases h with
      | unary ha => rw [encode, iha ha]
  | membership a ms negated iha ihms =>
      cases h with
      | membership ha hms fits =>
          rw [encode, iha ha, encodeMembers_of_printed (fun m hm xs => ihms m hm) hms]

/-! ## More spellings -/

variable {wider : Spelling}

theorem WrittenPayload.mono (hs : ∀ d s, spelling d s → wider d s) {p : Payload}
    {content : List UInt8} (h : WrittenPayload spelling p content) :
    WrittenPayload wider p content := by
  cases h with
  | decimal spelled fits => exact .decimal (hs _ _ spelled) fits
  | plain plain fits => exact .plain plain fits

theorem WrittenMembers.mono {ms : List Expr} {front : List UInt8}
    (h : ∀ m ∈ ms, ∀ xs, Written spelling m xs → Written wider m xs)
    (hms : WrittenMembers spelling ms front) : WrittenMembers wider ms front := by
  induction ms generalizing front with
  | nil =>
      cases hms
      exact .nil
  | cons m ms ih =>
      cases hms with
      | cons hm hms =>
          exact .cons (h m List.mem_cons_self _ hm)
            (ih (fun n hn => h n (List.mem_cons_of_mem m hn)) hms)

/-- What is written for a tree is so with more spellings. -/
theorem Written.mono (hs : ∀ d s, spelling d s → wider d s) {e : Expr} {front : List UInt8}
    (h : Written spelling e front) : Written wider e front := by
  induction e using Expr.induction generalizing front with
  | literal v =>
      cases h with
      | literal hv =>
          cases hv with
          | mk hcontent => exact .literal (.mk (hcontent.mono hs))
  | column c =>
      cases h with
      | column fits => exact .column fits
  | comparison op a b iha ihb =>
      cases h with
      | comparison ha hb => exact .comparison (iha ha) (ihb hb)
  | logical op a b iha ihb =>
      cases h with
      | logical ha hb => exact .logical (iha ha) (ihb hb)
  | unary op a iha =>
      cases h with
      | unary ha => exact .unary (iha ha)
  | membership a ms negated iha ihms =>
      cases h with
      | membership ha hms fits =>
          exact .membership (iha ha) (hms.mono fun m hm xs => ihms m hm) fits

end Plan

end ScanFilter
