/-
SOSI text (`gcimport/parsers/sosi.py`).

The source keeps the open nodes on a stack of references into the tree.  Here
the stack holds the open nodes themselves, innermost first, and a node joins its
parent when it is closed; its place among the children is the same, since the
parent takes no other child while the node is open.

`parseText_raises`: parsing raises nothing but `SosiParseError`.
-/
import Topogdb.Lib.Python
import Topogdb.Lib.Raises
import Topogdb.Gcimport.Env

namespace Gcimport

open Python

/-- `SosiInlineAttribute`. -/
structure SosiInlineAttribute where
  name : String
  value : Option String

/-- `SosiChild`: a `SosiNode` or a `SosiCoordinate`.  Coordinate values keep
their text; nothing reads the numbers. -/
inductive SosiChild where
  | node (name : String) (value : Option String) (children : List SosiChild) (sourceLine : ℕ)
  | coordinate (values : List String) (attributes : List SosiInlineAttribute) (sourceLine : ℕ)

/-- `SosiNode`. -/
structure SosiNode where
  name : String
  value : Option String
  children : List SosiChild := []
  sourceLine : ℕ

/-- A node as a child. -/
def SosiNode.toChild (n : SosiNode) : SosiChild := .node n.name n.value n.children n.sourceLine

/-- `SosiTree`. -/
structure SosiTree where
  header : Option SosiNode := none
  footer : Option SosiNode := none
  children : List SosiNode := []

/-- The tree without the open nodes, and these, innermost first. -/
structure ParseState where
  tree : SosiTree := {}
  stack : List SosiNode := []

variable (env : Env)

def sosiError {α : Type} (sourceLine : ℕ) (message : String) : Except PyError α :=
  .error (.sosiParse s!"line {sourceLine}: {message}")

/-- `s.strip() or None`. -/
def orNone (s : String) : Option String := if strip s = "" then none else some (strip s)

/-! ### Records -/

/-- `_parse_number`: the token as an `int` or a `float`. -/
def parseNumber (token : String) (sourceLine : ℕ) : Except PyError String :=
  if env.isInt token ∨ env.isFloat token then .ok token
  else sosiError sourceLine s!"invalid coordinate value {env.repr token}"

/-- `_parse_inline_attribute`. -/
def parseInlineAttribute (payload : String) (sourceLine : ℕ) :
    Except PyError SosiInlineAttribute :=
  let (name, remainder) := partition ' ' payload
  if name = "" then sosiError sourceLine "empty coordinate attribute"
  else .ok { name := name, value := orNone remainder }

/-- `_parse_coordinate`. -/
def parseCoordinate (payload : String) (sourceLine : ℕ) : Except PyError SosiChild :=
  let segments := (splitDots [] payload.toList).map strip
  let valuesSegment := segments.headD ""
  if valuesSegment = "" then sosiError sourceLine "missing coordinate values"
  else do
    let values ← (splitSpace valuesSegment).mapM fun token => parseNumber env token sourceLine
    let attributes ← ((segments.drop 1).filter (· ≠ "")).mapM fun segment =>
      parseInlineAttribute segment sourceLine
    .ok (.coordinate values attributes sourceLine)

/-- `_looks_like_coordinate_payload`. -/
def looksLikeCoordinatePayload (payload : String) : Bool :=
  let valuesSegment := strip ((splitDots [] payload.toList).headD "")
  match (splitSpace valuesSegment).head?.bind fun token => token.toList.head? with
  | some c => c = '-' ∨ c = '+' ∨ env.isDigit c
  | none => false

/-- `_append_continuation`. -/
def appendContinuation (node : SosiNode) (payload : String) : SosiNode :=
  { node with
    value := some (match node.value with
      | none => payload
      | some value => value ++ " " ++ payload) }

/-- `_attach_record`. -/
def attachRecord (node : SosiNode) (payload : String) (sourceLine : ℕ) :
    Except PyError SosiNode :=
  if looksLikeCoordinatePayload env payload then do
    let coordinate ← parseCoordinate env payload sourceLine
    .ok { node with children := node.children ++ [coordinate] }
  else .ok (appendContinuation node payload)

/-- `_parse_node`. -/
def parseNode (payload : String) (sourceLine : ℕ) : Except PyError SosiNode :=
  if payload = "" then sosiError sourceLine "empty SOSI directive"
  else
    let (name, remainder) := partition ' ' (removeSuffix ":" payload)
    .ok { name := name, value := orNone remainder, sourceLine := sourceLine }

/-! ### Nesting -/

/-- `_directive_depth`. -/
def directiveDepth (line : List Char) : ℕ := (line.takeWhile (· = '.')).length

/-- Put a closed node of depth one where `_attach_node` attached it. -/
def SosiTree.close (tree : SosiTree) (node : SosiNode) : SosiTree :=
  if node.name = "HODE" then { tree with header := some node }
  else if node.name = "SLUTT" then { tree with footer := some node }
  else { tree with children := tree.children ++ [node] }

/-- `stack.pop()`. -/
def ParseState.pop (st : ParseState) : ParseState :=
  match st.stack with
  | [] => st
  | [node] => { tree := st.tree.close node, stack := [] }
  | node :: parent :: rest =>
    { st with stack := { parent with children := parent.children ++ [node.toChild] } :: rest }

/-- `while len(stack) > depth: stack.pop()`; the tree itself is one more entry. -/
def ParseState.popTo (st : ParseState) (depth : ℕ) : ParseState :=
  (fun st => st.pop)^[st.stack.length + 1 - depth] st

/-- `_attach_node` with `stack.append(node)`: a header and a footer are taken
once. -/
def openNode (st : ParseState) (node : SosiNode) (depth sourceLine : ℕ) :
    Except PyError ParseState :=
  if depth = 1 ∧ node.name = "HODE" then
    if st.tree.header.isSome then sosiError sourceLine "duplicate SOSI header"
    else .ok { tree := { st.tree with header := some node }, stack := [node] }
  else if depth = 1 ∧ node.name = "SLUTT" then
    if st.tree.footer.isSome then sosiError sourceLine "duplicate SOSI footer"
    else .ok { tree := { st.tree with footer := some node }, stack := [node] }
  else .ok { st with stack := node :: st.stack }

/-- One line of `parse_text`, numbered from one. -/
def parseLine (st : ParseState) (rawLine : String) (sourceLine : ℕ) : Except PyError ParseState :=
  let line := strip rawLine
  if line = "" then .ok st
  else if line.toList.head? = some '.' then
    let depth := directiveDepth line.toList
    if depth > st.stack.length + 1 then
      sosiError sourceLine s!"invalid nesting depth {depth}"
    else do
      let st := st.popTo depth
      let node ← parseNode (strip (String.ofList (line.toList.drop depth))) sourceLine
      openNode st node depth sourceLine
  else
    match st.stack with
    | [] => sosiError sourceLine "coordinate record without a parent key"
    | node :: rest => do
      let node ← attachRecord env node line sourceLine
      .ok { st with stack := node :: rest }

/-- `parse_text`. -/
def parseText (text : String) : Except PyError SosiTree := do
  let lines := splitLines [] (removePrefix "\ufeff" text).toList
  let st ← lines.zipIdx.foldlM (fun st x => parseLine env st x.1 (x.2 + 1)) {}
  .ok (st.popTo 1).tree

/-! ### Statistics -/

/-- A `Counter`: names in the order of their first count. -/
abbrev Counts := List (String × ℕ)

/-- `counter[name] += n`. -/
def Counts.add (counts : Counts) (name : String) (n : ℕ) : Counts :=
  dictSet counts name ((counts.lookup name).getD 0 + n)

/-- `counter.update(other)`. -/
def Counts.update (counts other : Counts) : Counts :=
  other.foldl (fun counts e => counts.add e.1 e.2) counts

/-- `SosiStats`. -/
structure SosiStats where
  hasHeader : Bool
  hasFooter : Bool
  totalObjects : ℕ
  objectTypes : Counts
  objtypes : Counts
  coordinateRecords : ℕ
  coordinateAttributeCounts : Counts

/-- `_direct_child_value`. -/
def directChildValue (node : SosiNode) (name : String) : Option String :=
  (node.children.findSome? fun
    | .node childName value _ _ => if childName = name then some value else none
    | .coordinate .. => none).getD none

mutual

/-- `_iter_coordinates`: the attributes of every coordinate below a child. -/
def iterChild : SosiChild → List (List SosiInlineAttribute)
  | .coordinate _ attributes _ => [attributes]
  | .node _ _ children _ => iterChildren children

def iterChildren : List SosiChild → List (List SosiInlineAttribute)
  | [] => []
  | child :: children => iterChild child ++ iterChildren children

end

/-- `summarize_tree`. -/
def summarizeTree (tree : SosiTree) : SosiStats :=
  let coordinates := tree.children.flatMap fun child => iterChildren child.children
  { hasHeader := tree.header.isSome
    hasFooter := tree.footer.isSome
    totalObjects := tree.children.length
    objectTypes := tree.children.foldl (fun counts child => counts.add child.name 1) []
    objtypes := (tree.children.filterMap fun child => directChildValue child "OBJTYPE").foldl
      (fun counts objtype => counts.add objtype 1) []
    coordinateRecords := coordinates.length
    coordinateAttributeCounts := coordinates.flatten.foldl
      (fun counts inline => counts.add inline.name 1) [] }

/-! ### What can be raised -/

/-- The error is a `SosiParseError`. -/
def IsSosiParse (e : PyError) : Prop := ∃ message, e = .sosiParse message

theorem raises_sosiError {α : Type} (sourceLine : ℕ) (message : String) :
    (sosiError sourceLine message : Except PyError α).Raises IsSosiParse := by
  rintro e ⟨⟩
  exact ⟨_, rfl⟩

theorem parseCoordinate_raises (payload : String) (sourceLine : ℕ) :
    (parseCoordinate env payload sourceLine).Raises IsSosiParse := by
  unfold parseCoordinate
  simp only
  refine Except.Raises.ite (fun _ => raises_sosiError _ _) fun _ => ?_
  refine Except.Raises.bind (Except.raises_mapM fun token _ => ?_) fun values _ => ?_
  · exact Except.Raises.ite (fun _ => Except.raises_ok _) fun _ => raises_sosiError _ _
  · refine Except.Raises.bind (Except.raises_mapM fun segment _ => ?_) fun _ _ => Except.raises_ok _
    exact Except.Raises.ite (fun _ => raises_sosiError _ _) fun _ => Except.raises_ok _

theorem attachRecord_raises (node : SosiNode) (payload : String) (sourceLine : ℕ) :
    (attachRecord env node payload sourceLine).Raises IsSosiParse := by
  refine Except.Raises.ite (fun _ => ?_) fun _ => Except.raises_ok _
  exact Except.Raises.bind (parseCoordinate_raises env payload sourceLine)
    fun _ _ => Except.raises_ok _

theorem openNode_raises (st : ParseState) (node : SosiNode) (depth sourceLine : ℕ) :
    (openNode st node depth sourceLine).Raises IsSosiParse := by
  refine Except.Raises.ite (fun _ => ?_) fun _ => Except.Raises.ite (fun _ => ?_) fun _ => ?_
  · exact Except.Raises.ite (fun _ => raises_sosiError _ _) fun _ => Except.raises_ok _
  · exact Except.Raises.ite (fun _ => raises_sosiError _ _) fun _ => Except.raises_ok _
  · exact Except.raises_ok _

theorem parseLine_raises (st : ParseState) (rawLine : String) (sourceLine : ℕ) :
    (parseLine env st rawLine sourceLine).Raises IsSosiParse := by
  rw [parseLine]
  simp only
  refine Except.Raises.ite (fun _ => Except.raises_ok _) fun _ => ?_
  refine Except.Raises.ite (fun _ => ?_) fun _ => ?_
  · refine Except.Raises.ite (fun _ => raises_sosiError _ _) fun _ => ?_
    refine Except.Raises.bind ?_ fun node _ => openNode_raises _ _ _ _
    exact Except.Raises.ite (fun _ => raises_sosiError _ _) fun _ => Except.raises_ok _
  · split
    · exact raises_sosiError _ _
    · exact Except.Raises.bind (attachRecord_raises env _ _ _) fun _ _ => Except.raises_ok _

/-- **Parsing raises nothing but `SosiParseError`.** -/
theorem parseText_raises (text : String) : (parseText env text).Raises IsSosiParse := by
  unfold parseText
  simp only
  refine Except.Raises.bind ?_ fun st _ => Except.raises_ok _
  refine Except.raises_foldlM_of_step ?_ _ _
  exact fun st x => parseLine_raises env st x.1 (x.2 + 1)

end Gcimport
