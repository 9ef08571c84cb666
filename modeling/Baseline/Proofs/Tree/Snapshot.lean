import Baseline.Proofs.Json.UniqueReading
import Baseline.Proofs.Tree.Walk
import Baseline.Tree.Json

/-!
# Snapshots determine their sources

The JSON of a tree leaves out the text of a group, the delimiter of a leaf and
an empty list of children.  Nothing is lost by that: nodes whose JSON is equal
up to the order of members are equal (`Node.eq_of_equivalent`).  Canonical texts
without their line breaks determine the JSON, and a tree that keeps everything
determines its source, so two sources have one snapshot only if they are equal
(`snapshot_eq_iff`).
-/

namespace Baseline

namespace Json

variable
  {left right : List (String × Json)}
  {leftValue rightValue : Json}

/-- Equivalent objects have equivalent values under each name. -/
theorem Equivalent.value
    (equivalent : (Json.object left).Equivalent (.object right))
    (name : String)
    (leftMember : (name, leftValue) ∈ left)
    (rightMember : (name, rightValue) ∈ right) :
    leftValue.Equivalent rightValue := by
  cases equivalent with
  | object _ values => exact values name leftValue rightValue leftMember rightMember

/-- Equivalent objects have the same names. -/
theorem Equivalent.names_perm (equivalent : (Json.object left).Equivalent (.object right)) :
    (left.map Prod.fst).Perm (right.map Prod.fst) := by
  cases equivalent with
  | object sameNames _ => exact sameNames

theorem Equivalent.string_eq
    {leftText rightText : String}
    (equivalent : (Json.string leftText).Equivalent (.string rightText)) :
    leftText = rightText := by
  cases equivalent
  rfl

theorem Equivalent.int_eq
    {leftNumber rightNumber : Int}
    (equivalent : (Json.int leftNumber).Equivalent (.int rightNumber)) :
    leftNumber = rightNumber := by
  cases equivalent
  rfl

theorem Equivalent.length_eq
    {leftItems rightItems : List Json}
    (equivalent : (Json.array leftItems).Equivalent (.array rightItems)) :
    leftItems.length = rightItems.length := by
  cases equivalent with
  | array sameLength _ => exact sameLength

/-- Equivalent arrays have equivalent first items and equivalent later items. -/
theorem Equivalent.of_cons
    {leftItem rightItem : Json}
    {leftItems rightItems : List Json}
    (equivalent : (Json.array (leftItem :: leftItems)).Equivalent (.array (rightItem :: rightItems))) :
    leftItem.Equivalent rightItem ∧ (Json.array leftItems).Equivalent (.array rightItems) := by
  cases equivalent with
  | array sameLength pairs =>
      rw [List.zip_cons_cons, List.forall_mem_cons] at pairs
      exact ⟨pairs.1, .array (by simpa using sameLength) pairs.2⟩

end Json

/-! ## Well-formed JSON -/

theorem Span.toJson_wellFormed (span : Span) : span.toJson.WellFormed := by
  refine .object (by simp) ?_
  simp only [List.forall_mem_cons]
  exact ⟨.int _, .int _, .int _, .int _, by simp⟩

/-- Members with other names and perhaps the children make a well-formed object. -/
theorem wellFormed_append_childrenMember
    {members : List (String × Json)}
    {children : List Json}
    (namesNodup : ("children" :: members.map Prod.fst).Nodup)
    (membersFormed : ∀ member ∈ members, member.2.WellFormed)
    (childrenFormed : ∀ child ∈ children, child.WellFormed) :
    (Json.object (members ++ childrenMember children)).WellFormed := by
  cases children with
  | nil =>
      rw [childrenMember, List.append_nil]
      exact .object (List.nodup_cons.mp namesNodup).2 membersFormed
  | cons child rest =>
      rw [childrenMember]
      · refine .object ?_ ?_
        · rw [List.map_append, List.nodup_append_comm]
          exact namesNodup
        · simp only [List.forall_mem_append, List.forall_mem_singleton]
          exact ⟨membersFormed, .array childrenFormed⟩
      · simp

namespace Node

mutual

theorem toJson_wellFormed (node : Node) : node.toJson.WellFormed := by
  cases node with
  | leaf kind text span =>
      refine .object (by simp) ?_
      simp only [List.forall_mem_cons]
      exact ⟨.string _, .string _, span.toJson_wellFormed, by simp⟩
  | group delimiter span children =>
      refine wellFormed_append_childrenMember (by simp) ?_ (toJsonList_wellFormed children)
      simp only [List.forall_mem_cons]
      exact ⟨.string _, .string _, span.toJson_wellFormed, by simp⟩

theorem toJsonList_wellFormed (nodes : List Node) :
    ∀ item ∈ toJsonList nodes, item.WellFormed := by
  cases nodes with
  | nil => simp [toJsonList]
  | cons node rest =>
      rw [toJsonList, List.forall_mem_cons]
      exact ⟨node.toJson_wellFormed, toJsonList_wellFormed rest⟩

end

end Node

theorem TokenTree.toJson_wellFormed (tree : TokenTree) : tree.toJson.WellFormed := by
  refine wellFormed_append_childrenMember (by simp) ?_
    (Node.toJsonList_wellFormed tree.children)
  simp only [List.forall_mem_cons]
  exact ⟨.string _, tree.span.toJson_wellFormed, by simp⟩

/-! ## Equivalent JSON -/

theorem TokenKind.name_injective : Function.Injective TokenKind.name := by
  intro left right
  cases left <;> cases right <;> decide

theorem TokenKind.name_ne_group (kind : TokenKind) : kind.name ≠ "Group" := by
  cases kind <;> decide

theorem Delimiter.name_injective : Function.Injective Delimiter.name := by
  intro left right
  cases left <;> cases right <;> decide

theorem Span.eq_of_equivalent
    {left right : Span}
    (equivalent : left.toJson.Equivalent right.toJson) :
    left = right := by
  obtain ⟨⟨leftOffset, leftLine, leftColumn⟩, leftStop⟩ := left
  obtain ⟨⟨rightOffset, rightLine, rightColumn⟩, rightStop⟩ := right
  have same (name : String) {leftNumber rightNumber : Nat}
      (leftMember : (name, Json.int leftNumber) ∈ [("start", Json.int leftOffset),
        ("end", .int leftStop), ("line", .int leftLine), ("column", .int leftColumn)])
      (rightMember : (name, Json.int rightNumber) ∈ [("start", Json.int rightOffset),
        ("end", .int rightStop), ("line", .int rightLine), ("column", .int rightColumn)]) :
      leftNumber = rightNumber :=
    Int.ofNat.inj (equivalent.value name leftMember rightMember).int_eq
  have offset_eq : leftOffset = rightOffset := same "start" (by simp) (by simp)
  have stop_eq : leftStop = rightStop := same "end" (by simp) (by simp)
  have line_eq : leftLine = rightLine := same "line" (by simp) (by simp)
  have column_eq : leftColumn = rightColumn := same "column" (by simp) (by simp)
  rw [offset_eq, stop_eq, line_eq, column_eq]

/-- Children are left out in both of two equivalent objects or in none, and are equivalent. -/
theorem Json.Equivalent.children
    {leftMembers rightMembers : List (String × Json)}
    {leftChildren rightChildren : List Json}
    (equivalent : (Json.object (leftMembers ++ childrenMember leftChildren)).Equivalent
      (.object (rightMembers ++ childrenMember rightChildren)))
    (leftNames : "children" ∉ leftMembers.map Prod.fst)
    (rightNames : "children" ∉ rightMembers.map Prod.fst) :
    (Json.array leftChildren).Equivalent (.array rightChildren) := by
  have sameNames := equivalent.names_perm.mem_iff (a := "children")
  cases leftChildren with
  | nil =>
      cases rightChildren with
      | nil => exact .array rfl (by simp)
      | cons => simp_all [childrenMember]
  | cons =>
      cases rightChildren with
      | nil => simp_all [childrenMember]
      | cons => exact equivalent.value "children" (by simp [childrenMember]) (by simp [childrenMember])

namespace Node

mutual

/-- The JSON of a node determines the node. -/
theorem eq_of_equivalent
    (left right : Node)
    (equivalent : left.toJson.Equivalent right.toJson) :
    left = right := by
  cases left with
  | leaf leftKind leftText leftSpan =>
      cases right with
      | leaf rightKind rightText rightSpan =>
          have kind_eq : leftKind.name = rightKind.name :=
            (equivalent.value "kind" (by simp) (by simp)).string_eq
          have text_eq : leftText = rightText :=
            (equivalent.value "text" (by simp) (by simp)).string_eq
          have span_eq : leftSpan = rightSpan := Span.eq_of_equivalent
            (equivalent.value "span" (by simp) (by simp))
          rw [TokenKind.name_injective kind_eq, text_eq, span_eq]
      | group =>
          have kind_eq : leftKind.name = "Group" :=
            (equivalent.value "kind" (by simp) (by simp)).string_eq
          exact absurd kind_eq leftKind.name_ne_group
  | group leftDelimiter leftSpan leftChildren =>
      cases right with
      | leaf rightKind =>
          have kind_eq : "Group" = rightKind.name :=
            (equivalent.value "kind" (by simp) (by simp)).string_eq
          exact absurd kind_eq.symm rightKind.name_ne_group
      | group rightDelimiter rightSpan rightChildren =>
          have delimiter_eq : leftDelimiter.name = rightDelimiter.name :=
            (equivalent.value "delimiter" (by simp) (by simp)).string_eq
          have span_eq : leftSpan = rightSpan := Span.eq_of_equivalent
            (equivalent.value "span" (by simp) (by simp))
          have children_eq := eq_of_equivalentAll leftChildren rightChildren
            (equivalent.children (by simp) (by simp))
          rw [Delimiter.name_injective delimiter_eq, span_eq, children_eq]

/-- The JSON of nodes determines the nodes. -/
theorem eq_of_equivalentAll
    (left right : List Node)
    (equivalent : (Json.array (toJsonList left)).Equivalent (.array (toJsonList right))) :
    left = right := by
  cases left with
  | nil =>
      cases right with
      | nil => rfl
      | cons => cases equivalent.length_eq
  | cons leftNode leftRest =>
      cases right with
      | nil => cases equivalent.length_eq
      | cons rightNode rightRest =>
          obtain ⟨first, later⟩ := equivalent.of_cons
          rw [eq_of_equivalent leftNode rightNode first,
            eq_of_equivalentAll leftRest rightRest later]

end

end Node

namespace TokenTree

variable
  {options : TreeOptions}
  {leftSource rightSource : String}
  {left right : TokenTree}

/-- The JSON of a tree determines its nodes. -/
theorem children_eq_of_equivalent (equivalent : left.toJson.Equivalent right.toJson) :
    left.children = right.children :=
  Node.eq_of_equivalentAll _ _ (equivalent.children (by simp) (by simp))

/-- Two sources have one snapshot, line breaks apart, exactly if they are equal. -/
theorem snapshot_eq_iff
    [Unicode.Segmentation]
    (whitespaceKept : options.keepWhitespace)
    (commentsKept : options.keepComments)
    (leftParsed : parse options leftSource = .ok left)
    (rightParsed : parse options rightSource = .ok right)
    (indent : Nat) :
    Text.stripLineBreaks (left.toJson.canonicalize indent) =
        Text.stripLineBreaks (right.toJson.canonicalize indent) ↔
      leftSource = rightSource := by
  constructor
  · intro snapshots_eq
    rw [Json.stripLineBreaks_canonicalize_eq_iff_sortMembers_eq left.toJson_wellFormed
      right.toJson_wellFormed, Json.sortMembers_eq_iff left.toJson_wellFormed
      right.toJson_wellFormed] at snapshots_eq
    rw [← join_texts_of_parse whitespaceKept commentsKept leftParsed,
      ← join_texts_of_parse whitespaceKept commentsKept rightParsed, texts, texts,
      children_eq_of_equivalent snapshots_eq]
  · rintro rfl
    rw [leftParsed, Except.ok.injEq] at rightParsed
    rw [rightParsed]

/-- Snapshots tell a line feed from a carriage return and a line feed, even without their
own line breaks. -/
theorem snapshot_ne_of_lineBreaks :
    let options : TreeOptions := { keepWhitespace := true }
    ∃ left right, parse options "(a)\n" = .ok left ∧ parse options "(a)\r\n" = .ok right ∧
      Text.stripLineBreaks (left.toJson.canonicalize 0) ≠
        Text.stripLineBreaks (right.toJson.canonicalize 0) := by
  intro options
  have leftTokens : tokenize "(a)\n" = .ok
      [⟨.punct, "(", ⟨0, 1, 1⟩⟩, ⟨.word, "a", ⟨1, 1, 2⟩⟩, ⟨.punct, ")", ⟨2, 1, 3⟩⟩,
       ⟨.newline, "\n", ⟨3, 1, 4⟩⟩] := by
    decide +kernel
  have rightTokens : tokenize "(a)\r\n" = .ok
      [⟨.punct, "(", ⟨0, 1, 1⟩⟩, ⟨.word, "a", ⟨1, 1, 2⟩⟩, ⟨.punct, ")", ⟨2, 1, 3⟩⟩,
       ⟨.newline, "\r\n", ⟨3, 1, 4⟩⟩] := by
    decide +kernel
  have leftParsed : parse options "(a)\n" = _ := parse_of_tokens leftTokens
  have rightParsed : parse options "(a)\r\n" = _ := parse_of_tokens rightTokens
  refine ⟨_, _, leftParsed, rightParsed, ?_⟩
  exact mt (snapshot_eq_iff rfl rfl leftParsed rightParsed 0).mp (by decide)

end TokenTree
end Baseline
