import ContainerBuilder.Lib.JsonText
import ContainerBuilder.Common.Data

/-!
# Property trees as JSON (`boost::property_tree`)

`write_json` writes a node without children as a string, one whose children all have empty keys as
an array and any other as an object, and the root always as an object; it throws if the root has
data or a node has both data and children. `readForms` reads these forms back, whatever the white
space between them (`readForms_writeJson`). It stands for the part of JSON that `read_json` is taken
to read as documented; what else `read_json` accepts is left open.

| here | there |
| --- | --- |
| `Ptree`                    | `boost::property_tree::ptree` |
| `Ptree.add`, `.addChild`, `.pushBack` | `add` and `add_child` for a path of one key, `push_back` |
| `Ptree.get`, `.getChild`   | `get<std::string>` and `get_child` for a path of one key |
| `writeJson`                | `json_parser::write_json(stream, tree)` |
-/

namespace ContainerBuilder

open Lib Lib.JsonText

/-- A `boost::property_tree::ptree`. -/
inductive Ptree
  | node (data : Bytes) (children : List (Bytes × Ptree))

namespace Ptree

theorem induct {P : Ptree → Prop}
    (hnode : ∀ data children, (∀ c ∈ children, P c.2) → P (.node data children)) : ∀ t, P t
  | .node data children => hnode data children fun c _ => induct hnode c.2
termination_by t => sizeOf t
decreasing_by
  rename_i hc
  obtain ⟨key, child⟩ := c
  have hsize := List.sizeOf_lt_of_mem hc
  simp only [Prod.mk.sizeOf_spec] at hsize
  simp only [node.sizeOf_spec]
  omega

/-- `tree.get<std::string>(key)` for a path of one key; `none` is the exception `ptree_bad_path`. -/
def get (key : Bytes) : Ptree → Option Bytes
  | .node _ children =>
    match children.find? (·.1 == key) with
    | some (_, .node data _) => some data
    | none => none

/-- `tree.get_child(key)`, as `get`. -/
def getChild (key : Bytes) : Ptree → Option Ptree
  | .node _ children => (children.find? (·.1 == key)).map (·.2)

/-- The nodes `for (auto child : tree)` runs through. -/
def children : Ptree → List (Bytes × Ptree)
  | .node _ children => children

/-- `ptree()` -/
def empty : Ptree := .node [] []

/-- `tree.push_back(std::make_pair(key, child))` -/
def pushBack : Ptree → Bytes → Ptree → Ptree
  | .node data children, key, child => .node data (children ++ [(key, child)])

@[simp] theorem pushBack_node (data : Bytes) (children : List (Bytes × Ptree)) (key : Bytes)
    (child : Ptree) :
    (node data children).pushBack key child = node data (children ++ [(key, child)]) := rfl

/-- `tree.add_child(key, child)`, which adds another child if there is one with this key. -/
def addChild (tree : Ptree) (key : Bytes) (child : Ptree) : Ptree := tree.pushBack key child

/-- `tree.add(key, value)` -/
def add (tree : Ptree) (key value : Bytes) : Ptree := tree.addChild key (.node value [])

end Ptree

/-! ## Writing -/

/-- How the children of a node are written. -/
inductive Form
  | array
  | object
deriving DecidableEq

namespace Form

def opening : Form → UInt8
  | .array => 91
  | .object => 123

def closing : Form → UInt8
  | .array => 93
  | .object => 125

/-- Only the root is written at `indent` zero. -/
def ofChildren (indent : Nat) (children : List (Bytes × Ptree)) : Form :=
  if 0 < indent ∧ children.all (·.1.isEmpty) then .array else .object

end Form

def spaces (n : Nat) : Bytes := List.replicate n 32

def writeString (s : Bytes) : Bytes := quote :: escape s ++ [quote]

/-- What stands before a child. -/
def writeKey : Form → Bytes → Bytes
  | .array, _ => []
  | .object, key => writeString key ++ [58, 32]

mutual

/-- `write_json_helper`, with `pretty`. -/
def Ptree.write (indent : Nat) : Ptree → Bytes
  | .node data children =>
    if 0 < indent ∧ children.isEmpty then writeString data
    else
      let form := Form.ofChildren indent children
      form.opening :: 10 :: writeChildren form (indent + 1) children ++ spaces (4 * indent) ++
        [form.closing]

def writeChildren (form : Form) (indent : Nat) : List (Bytes × Ptree) → Bytes
  | [] => []
  | (key, child) :: children =>
    spaces (4 * indent) ++ writeKey form key ++ child.write indent ++
      (if children.isEmpty then [10] else [44, 10]) ++ writeChildren form indent children

end

mutual

/-- `verify_json`: what can be written. -/
def Ptree.verify (depth : Nat) : Ptree → Bool
  | .node data children =>
    (data.isEmpty || (0 < depth && children.isEmpty)) && verifyChildren (depth + 1) children

def verifyChildren (depth : Nat) : List (Bytes × Ptree) → Bool
  | [] => true
  | (_, child) :: children => child.verify depth && verifyChildren depth children

end

/-- `none` is the exception `json_parser_error`. -/
def writeJson (tree : Ptree) : Option Bytes :=
  if tree.verify 0 then some (tree.write 0 ++ [10]) else none

/-! ## Reading -/

/-- The key before a child. -/
def readKey : Form → Bytes → Option (Bytes × Bytes)
  | .array, text => some ([], text)
  | .object, text =>
    (expect quote text).bind fun text =>
      (readString text).bind fun r => (expect 58 r.2).map fun text => (r.1, text)

mutual

def readValue : Nat → Bytes → Option (Ptree × Bytes)
  | 0, _ => none
  | fuel + 1, text =>
    match skipSpace text with
    | [] => none
    | b :: text =>
      if b = quote then (readString text).map fun r => (.node r.1 [], r.2)
      else if b = Form.array.opening then readNode .array fuel text
      else if b = Form.object.opening then readNode .object fuel text
      else none

/-- An array or an object, after its opening bracket. -/
def readNode (form : Form) : Nat → Bytes → Option (Ptree × Bytes)
  | 0, _ => none
  | fuel + 1, text =>
    match expect form.closing text with
    | some text => some (.node [] [], text)
    | none => (readChildren form fuel text).map fun r => (.node [] r.1, r.2)

def readChildren (form : Form) : Nat → Bytes → Option (List (Bytes × Ptree) × Bytes)
  | 0, _ => none
  | fuel + 1, text =>
    (readKey form text).bind fun k =>
      (readValue fuel k.2).bind fun v =>
        match expect 44 v.2 with
        | some text => (readChildren form fuel text).map fun r => ((k.1, v.1) :: r.1, r.2)
        | none => (expect form.closing v.2).map fun text => ([(k.1, v.1)], text)

end

/-- A text of one value, of the forms that `writeJson` writes. -/
def readForms (text : Bytes) : Option Ptree :=
  match readValue (text.length + 1) text with
  | some (tree, rest) => if skipSpace rest = [] then some tree else none
  | none => none

/-! ## Round trip -/

mutual

/-- All data and all keys are ASCII. -/
def Ptree.Ascii : Ptree → Prop
  | .node data children => JsonText.Ascii data ∧ AsciiChildren children

def AsciiChildren : List (Bytes × Ptree) → Prop
  | [] => True
  | (key, child) :: children => JsonText.Ascii key ∧ child.Ascii ∧ AsciiChildren children

end

theorem asciiChildren_iff {children : List (Bytes × Ptree)} :
    AsciiChildren children ↔ ∀ c ∈ children, JsonText.Ascii c.1 ∧ c.2.Ascii := by
  induction children with
  | nil => simp [AsciiChildren]
  | cons c children ih => simp [AsciiChildren, ih, and_assoc]

theorem verifyChildren_iff {depth : Nat} {children : List (Bytes × Ptree)} :
    verifyChildren depth children = true ↔ ∀ c ∈ children, c.2.verify depth = true := by
  induction children with
  | nil => simp [verifyChildren]
  | cons c children ih => simp [verifyChildren, ih]

theorem isSpace_spaces {n : Nat} : ∀ b ∈ spaces n, isSpace b = true := by
  intro b hb
  rw [List.eq_of_mem_replicate hb]
  rfl

namespace Form

theorem isSpace_closing (form : Form) : isSpace form.closing = false := by
  cases form with
  | array => rfl
  | object => rfl

theorem closing_ne_comma (form : Form) : form.closing ≠ 44 := by
  cases form with
  | array => decide
  | object => decide

/-- Children written as an array have no keys. -/
theorem key_of_array {indent : Nat} {children : List (Bytes × Ptree)}
    (h : ofChildren indent children = .array) {c : Bytes × Ptree} (hc : c ∈ children) :
    c.1 = [] := by
  unfold ofChildren at h
  by_cases hall : 0 < indent ∧ children.all (·.1.isEmpty) = true
  · have hkey := List.all_eq_true.1 hall.2 c hc
    simpa using hkey
  · rw [if_neg hall] at h
    cases h

end Form

theorem readValue_append {ws : Bytes} (h : ∀ b ∈ ws, isSpace b = true) (fuel : Nat)
    (text : Bytes) : readValue fuel (ws ++ text) = readValue fuel text := by
  cases fuel with
  | zero => rfl
  | succ fuel =>
    unfold readValue
    rw [skipSpace_append h]

/-- A value starts with a byte that ends nothing. -/
theorem Ptree.write_head (indent : Nat) (t : Ptree) :
    ∃ b text, t.write indent = b :: text ∧ isSpace b = false ∧ ∀ form : Form, b ≠ form.closing := by
  obtain ⟨data, children⟩ := t
  unfold write
  by_cases hstring : 0 < indent ∧ children.isEmpty = true
  · rw [if_pos hstring]
    exact ⟨_, _, rfl, rfl, fun form => by cases form <;> decide⟩
  · rw [if_neg hstring]
    refine ⟨_, _, rfl, ?_, fun form => ?_⟩
    · cases Form.ofChildren indent children <;> rfl
    · cases Form.ofChildren indent children <;> cases form <;> decide

/-- Reading a key leaves at most white space before the child. -/
theorem readKey_writeKey {form : Form} {ws key : Bytes} (hws : ∀ b ∈ ws, isSpace b = true)
    (hkey : JsonText.Ascii key) (hform : form = .array → key = []) (text : Bytes) :
    ∃ ws', (∀ b ∈ ws', isSpace b = true) ∧
      readKey form (ws ++ (writeKey form key ++ text)) = some (key, ws' ++ text) := by
  cases form with
  | array =>
    rw [hform rfl]
    exact ⟨ws, hws, rfl⟩
  | object =>
    refine ⟨[32], List.forall_mem_singleton.2 rfl, ?_⟩
    have hcolon : expect 58 (58 :: 32 :: text) = some (32 :: text) := rfl
    simp only [readKey, writeKey, writeString]
    rw [expect_append hws]
    simp [expect_cons (show isSpace quote = false from rfl), readString_escape hkey, hcolon]

/-- `t` is read back wherever it stands, with as much fuel as its text is long. -/
def Ptree.ReadsBack (indent : Nat) (t : Ptree) : Prop :=
  ∀ fuel rest, (t.write indent).length ≤ fuel →
    readValue fuel (t.write indent ++ rest) = some (t, rest)

theorem append_spaces {ws : Bytes} (h : ∀ b ∈ ws, isSpace b = true) (n : Nat) :
    ∀ b ∈ ws ++ spaces n, isSpace b = true := by
  intro b hb
  rcases List.mem_append.1 hb with hb | hb
  · exact h b hb
  · exact isSpace_spaces b hb

/-- The last child. -/
theorem readChildren_close {form : Form} {fuel : Nat} {text text₁ text₂ text₃ key : Bytes}
    {child : Ptree} (hkey : readKey form text = some (key, text₁))
    (hvalue : readValue fuel text₁ = some (child, text₂)) (hcomma : expect 44 text₂ = none)
    (hclose : expect form.closing text₂ = some text₃) :
    readChildren form (fuel + 1) text = some ([(key, child)], text₃) := by
  simp [readChildren, hkey, hvalue, hcomma, hclose]

/-- A child with others after it. -/
theorem readChildren_comma {form : Form} {fuel : Nat} {text text₁ text₂ text₃ text₄ key : Bytes}
    {child : Ptree} {children : List (Bytes × Ptree)}
    (hkey : readKey form text = some (key, text₁))
    (hvalue : readValue fuel text₁ = some (child, text₂))
    (hcomma : expect 44 text₂ = some text₃)
    (hrest : readChildren form fuel text₃ = some (children, text₄)) :
    readChildren form (fuel + 1) text = some ((key, child) :: children, text₄) := by
  simp [readChildren, hkey, hvalue, hcomma, hrest]

theorem length_writeChildren_cons (form : Form) (indent : Nat) (key : Bytes) (child : Ptree)
    (children : List (Bytes × Ptree)) :
    (child.write indent).length + (writeChildren form indent children).length <
      (writeChildren form indent ((key, child) :: children)).length := by
  have hsep : 0 < (if children.isEmpty then [10] else [44, 10] : Bytes).length := by
    split <;> simp
  simp only [writeChildren, List.length_append]
  omega

theorem readChildren_writeChildren {form : Form} {indent : Nat} {ws' : Bytes}
    (hws' : ∀ b ∈ ws', isSpace b = true) (rest : Bytes) {children : List (Bytes × Ptree)} :
    ∀ {fuel : Nat} {ws : Bytes}, children ≠ [] → (∀ b ∈ ws, isSpace b = true) →
      (∀ c ∈ children, JsonText.Ascii c.1 ∧ (form = .array → c.1 = []) ∧ c.2.ReadsBack indent) →
      (writeChildren form indent children).length ≤ fuel →
      readChildren form fuel
          (ws ++ (writeChildren form indent children ++ (ws' ++ form.closing :: rest))) =
        some (children, rest) := by
  induction children with
  | nil => exact fun hne => absurd rfl hne
  | cons c children ih =>
    intro fuel ws _ hws hchildren hfuel
    obtain ⟨key, child⟩ := c
    obtain ⟨hkey, hform, hchild⟩ := hchildren (key, child) (List.mem_cons_self ..)
    simp only at hkey hform hchild
    have hlead := append_spaces hws (4 * indent)
    have hlength := length_writeChildren_cons form indent key child children
    obtain ⟨fuel, rfl⟩ : ∃ n, fuel = n + 1 := ⟨fuel - 1, by omega⟩
    cases children with
    | nil =>
      let after := 10 :: (ws' ++ form.closing :: rest)
      obtain ⟨ws₂, hws₂, hread⟩ := readKey_writeKey hlead hkey hform (child.write indent ++ after)
      have hvalue : readValue fuel (ws₂ ++ (child.write indent ++ after)) = some (child, after) := by
        rw [readValue_append hws₂]
        exact hchild fuel after (by omega)
      have hafter : ∀ b, expect b after = if form.closing = b then some rest else none := by
        intro b
        have hspace : ∀ b ∈ 10 :: ws', isSpace b = true := by simpa using ⟨rfl, hws'⟩
        exact (expect_append hspace b _).trans (expect_cons form.isSpace_closing b rest)
      have hclose := readChildren_close hread hvalue (by rw [hafter, if_neg form.closing_ne_comma])
        (by rw [hafter, if_pos rfl])
      simpa [writeChildren, after] using hclose
    | cons c children =>
      let others := writeChildren form indent (c :: children) ++ (ws' ++ form.closing :: rest)
      obtain ⟨ws₂, hws₂, hread⟩ := readKey_writeKey hlead hkey hform
        (child.write indent ++ 44 :: 10 :: others)
      have hvalue : readValue fuel (ws₂ ++ (child.write indent ++ 44 :: 10 :: others)) =
          some (child, 44 :: 10 :: others) := by
        rw [readValue_append hws₂]
        exact hchild fuel _ (by omega)
      have hrest : readChildren form fuel ([10] ++ others) = some (c :: children, rest) :=
        ih (List.cons_ne_nil _ _) (List.forall_mem_singleton.2 rfl)
          (fun c hc => hchildren c (List.mem_cons_of_mem _ hc)) (by omega)
      have hcomma := readChildren_comma hread hvalue rfl hrest
      simpa [writeChildren, others] using hcomma

theorem readValue_writeString {s : Bytes} (h : JsonText.Ascii s) (fuel : Nat) (rest : Bytes) :
    readValue (fuel + 1) (writeString s ++ rest) = some (.node s [], rest) := by
  simp [readValue, writeString, skipSpace_cons (show isSpace quote = false from rfl),
    readString_escape h]

theorem readValue_opening (form : Form) (fuel : Nat) (text : Bytes) :
    readValue (fuel + 1) (form.opening :: text) = readNode form fuel text := by
  cases form with
  | array => rfl
  | object => rfl

/-- Where there are children, the bracket does not close at once. -/
theorem expect_closing_writeChildren {form : Form} {indent : Nat} {ws : Bytes}
    (hws : ∀ b ∈ ws, isSpace b = true) {children : List (Bytes × Ptree)} (hne : children ≠ [])
    (text : Bytes) :
    expect form.closing (ws ++ (writeChildren form indent children ++ text)) = none := by
  obtain ⟨⟨key, child⟩, children, rfl⟩ := List.exists_cons_of_ne_nil hne
  simp only [writeChildren, List.append_assoc]
  rw [expect_append hws, expect_append isSpace_spaces]
  cases form with
  | array =>
    obtain ⟨b, tail, hwrite, hspace, hclosing⟩ := child.write_head indent
    rw [hwrite]
    exact (expect_cons hspace ..).trans (if_neg (hclosing .array))
  | object => exact (expect_cons rfl ..).trans (if_neg (by decide))

/-- What stands between the brackets. -/
theorem readNode_writeChildren {form : Form} {indent : Nat} {children : List (Bytes × Ptree)}
    (hchildren : ∀ c ∈ children,
      JsonText.Ascii c.1 ∧ (form = .array → c.1 = []) ∧ c.2.ReadsBack indent)
    {fuel : Nat} (hfuel : (writeChildren form indent children).length ≤ fuel) (n : Nat)
    (rest : Bytes) :
    readNode form (fuel + 1)
        (10 :: (writeChildren form indent children ++ (spaces n ++ form.closing :: rest))) =
      some (.node [] children, rest) := by
  have hnewline : ∀ b ∈ ([10] : Bytes), isSpace b = true := List.forall_mem_singleton.2 rfl
  rw [readNode, ← List.singleton_append]
  by_cases hne : children = []
  · subst hne
    rw [expect_append hnewline, writeChildren, List.nil_append, expect_append isSpace_spaces,
      expect_cons form.isSpace_closing, if_pos rfl]
  · rw [expect_closing_writeChildren hnewline hne,
      readChildren_writeChildren isSpace_spaces rest hne hnewline hchildren hfuel]
    rfl

/-- Every tree that can be written is read back, if its texts are ASCII. -/
theorem Ptree.readsBack (t : Ptree) :
    ∀ indent, t.Ascii → t.verify indent = true → t.ReadsBack indent := by
  induction t using Ptree.induct with
  | hnode data children ih =>
    intro indent hascii hverify fuel rest hfuel
    simp only [Ascii, asciiChildren_iff] at hascii
    simp only [verify, Bool.and_eq_true, verifyChildren_iff] at hverify
    obtain ⟨hdata, hchildren⟩ := hascii
    obtain ⟨hroot, hverify⟩ := hverify
    by_cases hstring : 0 < indent ∧ children.isEmpty = true
    · obtain rfl : children = [] := List.isEmpty_iff.1 hstring.2
      have hwrite : (node data []).write indent = writeString data := by
        rw [write, if_pos hstring]
      rw [hwrite] at hfuel ⊢
      obtain ⟨fuel, rfl⟩ : ∃ n, fuel = n + 1 := ⟨fuel - 1, by simp [writeString] at hfuel; omega⟩
      exact readValue_writeString hdata fuel rest
    · obtain rfl : data = [] := by
        cases data with
        | nil => rfl
        | cons b data => simp_all
      generalize hform : Form.ofChildren indent children = form
      have hwrite : (node [] children).write indent = form.opening :: 10 ::
          (writeChildren form (indent + 1) children ++ (spaces (4 * indent) ++ [form.closing])) := by
        rw [write, if_neg hstring, hform]
        simp
      have hback : ∀ c ∈ children,
          JsonText.Ascii c.1 ∧ (form = .array → c.1 = []) ∧ c.2.ReadsBack (indent + 1) := by
        intro c hc
        obtain ⟨hkey, hchild⟩ := hchildren c hc
        refine ⟨hkey, fun harray => ?_, ih c hc (indent + 1) hchild (hverify c hc)⟩
        exact Form.key_of_array (hform.trans harray) hc
      rw [hwrite] at hfuel ⊢
      simp only [List.length_cons, List.length_append] at hfuel
      obtain ⟨fuel, rfl⟩ : ∃ n, fuel = n + 2 := ⟨fuel - 2, by omega⟩
      rw [List.cons_append, readValue_opening]
      simpa using readNode_writeChildren hback (by omega : _ ≤ fuel) (4 * indent) rest

/-- **Round trip**: what `writeJson` writes is read back, if its texts are ASCII. -/
theorem readForms_writeJson {t : Ptree} {text : Bytes} (hascii : t.Ascii)
    (hwrite : writeJson t = some text) : readForms text = some t := by
  unfold writeJson at hwrite
  by_cases hverify : t.verify 0 = true
  · rw [if_pos hverify] at hwrite
    obtain rfl := Option.some.inj hwrite
    have hread := t.readsBack 0 hascii hverify ((t.write 0 ++ [10]).length + 1) [10]
      (by simp; omega)
    unfold readForms
    rw [hread]
    rfl
  · rw [if_neg hverify] at hwrite
    cases hwrite

end ContainerBuilder
