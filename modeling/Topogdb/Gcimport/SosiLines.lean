/-
SOSI text, line by line (`gcimport/parsers/sosi.py`).

What a text says is read off its lines: a directive opens a section at its depth,
a coordinate record and a continuation line belong to the section above them.

* `Reading`, `sections` — the lines and the sections, without any nesting;
* `SosiTree.walk` — a tree in pre-order, header and footer at their lines;
* `StackHolds` — the invariant of the stack: the closed nodes and the open ones are the
  sections read so far;
* **`parseText_exact`** — the parser refuses exactly the texts with a line that is
  refused, and the tree of any other holds its sections.
-/
import Mathlib.Data.List.ModifyLast
import Mathlib.Data.List.Sort
import Topogdb.Gcimport.Sosi

namespace Gcimport

open Python

variable (env : Env)

/-! ### Lines -/

/-- A line that is not blank, by itself. -/
inductive Reading where
  | directive (depth : ℕ) (payload : String)
  | coordinate (payload : String)
  | continuation (payload : String)

/-- The number of dots that a line begins with. -/
def leadingDots : List Char → ℕ
  | [] => 0
  | c :: rest => if c = '.' then leadingDots rest + 1 else 0

/-- The text of a line without its dots. -/
def directivePayload (line : String) : String :=
  strip (String.ofList (line.toList.drop (leadingDots line.toList)))

/-- The tokens before the first `...` of a coordinate record. -/
def coordinateValues (payload : String) : List String :=
  splitSpace (strip ((splitDots [] payload.toList).headD ""))

/-- The first token starts with a sign or a digit. -/
def startsWithNumber (payload : String) : Bool :=
  ((coordinateValues payload).head?.bind fun token => token.toList.head?).any fun c =>
    c ∈ ['-', '+'] || env.isDigit c

def readLine (rawLine : String) : Option Reading :=
  let line := strip rawLine
  if line = "" then none
  else if 0 < leadingDots line.toList then
    some (.directive (leadingDots line.toList) (directivePayload line))
  else if startsWithNumber env line then some (.coordinate line)
  else some (.continuation line)

/-- Numbered lines, without the blank ones. -/
def readingsOf (lines : List (String × ℕ)) : List (Reading × ℕ) :=
  lines.filterMap fun x => (readLine env x.1).map fun reading => (reading, x.2 + 1)

/-- The lines of a text that are not blank, numbered from one. -/
def readLines (text : String) : List (Reading × ℕ) :=
  readingsOf env (splitLines [] (removePrefix "\ufeff" text).toList).zipIdx

/-- The depth of a directive. -/
def Reading.depth? : Reading → Option ℕ
  | .directive depth _ => some depth
  | _ => none

def directiveName (payload : String) : String := (partition ' ' (removeSuffix ":" payload)).1

def directiveValue (payload : String) : Option String :=
  orNone (partition ' ' (removeSuffix ":" payload)).2

def coordinateAttributes (payload : String) : List SosiInlineAttribute :=
  (((splitDots [] payload.toList).map strip).drop 1).filter (· ≠ "") |>.map fun segment =>
    { name := (partition ' ' segment).1, value := orNone (partition ' ' segment).2 }

/-! ### Sections -/

/-- `SosiCoordinate`. -/
structure SosiCoordinate where
  values : List String
  attributes : List SosiInlineAttribute
  sourceLine : ℕ

/-- A directive with the lines that belong to it. -/
structure Section where
  depth : ℕ
  name : String
  value : Option String
  records : List SosiCoordinate
  sourceLine : ℕ

def Section.addRecord (s : Section) (record : SosiCoordinate) : Section :=
  { s with records := s.records ++ [record] }

def Section.continued (s : Section) (payload : String) : Section :=
  { s with value := some (match s.value with
      | none => payload
      | some value => value ++ " " ++ payload) }

/-- One more line. -/
def readSection (before : List Section) (line : Reading × ℕ) : List Section :=
  match line.1 with
  | .directive depth payload =>
    before ++ [⟨depth, directiveName payload, directiveValue payload, [], line.2⟩]
  | .coordinate payload =>
    before.modifyLast
      (·.addRecord ⟨coordinateValues payload, coordinateAttributes payload, line.2⟩)
  | .continuation payload => before.modifyLast (·.continued payload)

/-- The sections of the lines. -/
def sections (lines : List (Reading × ℕ)) : List Section := lines.foldl readSection []

/-- The depth of the last directive; none so far is depth zero. -/
def previousDepth (before : List Reading) : ℕ := (before.filterMap Reading.depth?).getLast?.getD 0

/-- The line cannot follow the lines before it. -/
def Refused (before : List Reading) : Reading → Prop
  | .directive depth payload =>
    previousDepth before + 1 < depth ∨ payload = "" ∨
      depth = 1 ∧ (directiveName payload = "HODE" ∨ directiveName payload = "SLUTT") ∧
        ∃ earlier, Reading.directive 1 earlier ∈ before ∧
          directiveName earlier = directiveName payload
  | .coordinate payload =>
    before.filterMap Reading.depth? = [] ∨
      ∃ token ∈ coordinateValues payload, ¬ (env.isInt token ∨ env.isFloat token)
  | .continuation _ => before.filterMap Reading.depth? = []

/-- Some line is refused. -/
def IsRefused (lines : List (Reading × ℕ)) : Prop :=
  ∃ before line after, lines = before ++ line :: after ∧ Refused env (before.map Prod.fst) line.1

/-- Neither a header nor a footer. -/
def isObject (name : String) : Bool := name ≠ "HODE" ∧ name ≠ "SLUTT"

/-- The sections of the objects. -/
def objects (ss : List Section) : List Section := ss.filter fun s => s.depth = 1 ∧ isObject s.name

/-- The records in and below the objects; `under` when the section before is. -/
def objectRecords (under : Bool) : List Section → ℕ
  | [] => 0
  | s :: rest =>
    let below := if s.depth = 1 then isObject s.name else under
    (if below then s.records.length else 0) + objectRecords below rest

/-! ### The tree in pre-order -/

/-- The coordinate records among the children. -/
def childRecords (children : List SosiChild) : List SosiCoordinate :=
  children.filterMap fun
    | .coordinate values attributes sourceLine => some ⟨values, attributes, sourceLine⟩
    | .node .. => none

mutual

def walkChild (depth : ℕ) : SosiChild → List Section
  | .coordinate .. => []
  | .node name value children sourceLine =>
    ⟨depth, name, value, childRecords children, sourceLine⟩ :: walkChildren (depth + 1) children

def walkChildren (depth : ℕ) : List SosiChild → List Section
  | [] => []
  | child :: children => walkChild depth child ++ walkChildren depth children

end

def SosiNode.walk (node : SosiNode) (depth : ℕ) : List Section := walkChild depth node.toChild

/-- The nodes of depth one, each at the line where it stood. -/
def SosiTree.nodes (tree : SosiTree) : List SosiNode :=
  (tree.children ++ tree.header.toList ++ tree.footer.toList).insertionSort
    (·.sourceLine ≤ ·.sourceLine)

def SosiTree.walk (tree : SosiTree) : List Section := tree.nodes.flatMap (·.walk 1)

/-- The tree says what the lines say. -/
structure ReadsAs (tree : SosiTree) (lines : List (Reading × ℕ)) : Prop where
  walk : tree.walk = sections lines
  directives : tree.walk.map (fun s => (s.depth, s.sourceLine)) =
    lines.filterMap fun line => line.1.depth?.map (·, line.2)
  totalObjects : (summarizeTree tree).totalObjects = (objects (sections lines)).length
  objectTypes : ∀ name, (summarizeTree tree).objectTypes.lookup name =
    let n := (objects (sections lines)).countP (·.name = name)
    if n = 0 then none else some n
  coordinateRecords :
    (summarizeTree tree).coordinateRecords = objectRecords false (sections lines)

/-! ### Sections and lines -/

theorem sections_concat (lines : List (Reading × ℕ)) (line : Reading × ℕ) :
    sections (lines ++ [line]) = readSection (sections lines) line :=
  List.foldl_concat _ _ _ _

/-- The depth and the name of a directive. -/
def Reading.heading? : Reading → Option (ℕ × String)
  | .directive depth payload => some (depth, directiveName payload)
  | _ => none

theorem map_modifyLast {α β : Type} {f : α → α} {g : α → β} (h : ∀ a, g (f a) = g a) (l : List α) :
    (l.modifyLast f).map g = l.map g := by
  rcases List.eq_nil_or_concat l with rfl | ⟨l, a, rfl⟩
  · rfl
  · rw [List.concat_eq_append, List.modifyLast_concat, List.map_append, List.map_append,
      List.map_singleton, List.map_singleton, h]

/-- Every directive opens a section, and no other line does. -/
theorem sections_headings (lines : List (Reading × ℕ)) :
    (sections lines).map (fun s => ((s.depth, s.name), s.sourceLine)) =
      lines.filterMap fun line => line.1.heading?.map (·, line.2) := by
  induction lines using List.reverseRecOn with
  | nil => rfl
  | append_singleton lines line ih =>
    obtain ⟨reading, n⟩ := line
    rw [sections_concat, List.filterMap_append, ← ih]
    cases reading with
    | directive depth payload => exact List.map_append
    | coordinate payload =>
      exact (map_modifyLast (fun _ => by rfl) _).trans (List.append_nil _).symm
    | continuation payload =>
      exact (map_modifyLast (fun _ => by rfl) _).trans (List.append_nil _).symm

theorem Reading.depth?_eq (reading : Reading) : reading.depth? = reading.heading?.map Prod.fst := by
  cases reading <;> rfl

theorem sections_directives (lines : List (Reading × ℕ)) :
    (sections lines).map (fun s => (s.depth, s.sourceLine)) =
      lines.filterMap fun line => line.1.depth?.map (·, line.2) := by
  have h := congrArg (List.map fun e => (e.1.1, e.2)) (sections_headings lines)
  rw [List.map_map, List.map_filterMap] at h
  refine h.trans (List.filterMap_congr fun line _ => ?_)
  rw [Reading.depth?_eq]
  cases line.1.heading? <;> rfl

/-- The sections of depth one have the names of the directives of depth one. -/
theorem exists_section_iff (lines : List (Reading × ℕ)) (name : String) :
    (∃ s ∈ sections lines, s.depth = 1 ∧ s.name = name) ↔
      ∃ payload, Reading.directive 1 payload ∈ lines.map Prod.fst ∧ directiveName payload = name := by
  have hmem : (∃ s ∈ sections lines, s.depth = 1 ∧ s.name = name) ↔
      ∃ n, ((1, name), n) ∈ (sections lines).map fun s => ((s.depth, s.name), s.sourceLine) := by
    simp only [List.mem_map, Prod.mk.injEq]
    constructor
    · rintro ⟨s, hs, hdepth, hname⟩
      exact ⟨s.sourceLine, s, hs, ⟨hdepth, hname⟩, rfl⟩
    · rintro ⟨-, s, hs, ⟨hdepth, hname⟩, -⟩
      exact ⟨s, hs, hdepth, hname⟩
  rw [hmem, sections_headings]
  simp only [List.mem_filterMap, Option.map_eq_some_iff, List.mem_map]
  constructor
  · rintro ⟨-, ⟨reading, n⟩, hline, -, hheading, ⟨⟩⟩
    cases reading with
    | directive depth payload =>
      cases hheading
      exact ⟨payload, ⟨_, hline, rfl⟩, rfl⟩
    | coordinate payload => cases hheading
    | continuation payload => cases hheading
  · rintro ⟨payload, ⟨⟨-, n⟩, hline, rfl⟩, hname⟩
    exact ⟨n, _, hline, (1, name), congrArg (fun name => some (1, name)) hname, rfl⟩

/-! ### Walks -/

theorem walkChildren_append (depth : ℕ) (cs ds : List SosiChild) :
    walkChildren depth (cs ++ ds) = walkChildren depth cs ++ walkChildren depth ds := by
  induction cs with
  | nil => rfl
  | cons c cs ih => rw [List.cons_append, walkChildren, walkChildren, ih, List.append_assoc]

theorem SosiNode.walk_eq (node : SosiNode) (depth : ℕ) :
    node.walk depth =
      ⟨depth, node.name, node.value, childRecords node.children, node.sourceLine⟩ ::
        walkChildren (depth + 1) node.children :=
  rfl

/-- The parent when a child node is closed. -/
def SosiNode.adopt (parent node : SosiNode) : SosiNode :=
  { parent with children := parent.children ++ [node.toChild] }

theorem SosiNode.walk_adopt (parent node : SosiNode) (depth : ℕ) :
    (parent.adopt node).walk depth = parent.walk depth ++ node.walk (depth + 1) := by
  have hrecords : childRecords (parent.adopt node).children = childRecords parent.children := by
    rw [childRecords, adopt, List.filterMap_append]
    exact List.append_nil _
  rw [walk_eq, hrecords, adopt, walkChildren_append, walkChildren, walkChildren, List.append_nil]
  rfl

/-- The open nodes, from the outermost on. -/
def openWalk : List SosiNode → List Section
  | [] => []
  | node :: rest => openWalk rest ++ node.walk (rest.length + 1)

mutual

theorem le_depth_of_mem_walkChild {s : Section} {depth : ℕ} (child : SosiChild)
    (h : s ∈ walkChild depth child) : depth ≤ s.depth := by
  cases child with
  | coordinate values attributes sourceLine => cases h
  | node name value children sourceLine =>
    rw [walkChild] at h
    rcases List.mem_cons.mp h with rfl | h
    · exact le_rfl
    · have := le_depth_of_mem_walkChildren children h
      omega

theorem le_depth_of_mem_walkChildren {s : Section} {depth : ℕ} (children : List SosiChild)
    (h : s ∈ walkChildren depth children) : depth ≤ s.depth := by
  cases children with
  | nil => cases h
  | cons child children =>
    rw [walkChildren] at h
    rcases List.mem_append.mp h with h | h
    · exact le_depth_of_mem_walkChild child h
    · exact le_depth_of_mem_walkChildren children h

end

/-! ### The stack -/

/-- The name and the line of the outermost open node. -/
def outermost : List SosiNode → Option (String × ℕ)
  | [] => none
  | [node] => some (node.name, node.sourceLine)
  | _ :: parent :: rest => outermost (parent :: rest)

/-- The only section of depth one of a node is its own. -/
theorem exists_walk_iff (node : SosiNode) (name : String) :
    (∃ s ∈ node.walk 1, s.depth = 1 ∧ s.name = name) ↔ node.name = name := by
  rw [SosiNode.walk_eq]
  constructor
  · rintro ⟨s, hs, hdepth, hname⟩
    rcases List.mem_cons.mp hs with rfl | hs
    · exact hname
    · have := le_depth_of_mem_walkChildren _ hs
      omega
  · intro hname
    exact ⟨_, List.mem_cons_self, rfl, hname⟩

theorem exists_openWalk_iff (stack : List SosiNode) (name : String) :
    (∃ s ∈ openWalk stack, s.depth = 1 ∧ s.name = name) ↔
      (outermost stack).map Prod.fst = some name := by
  induction stack with
  | nil => simp [openWalk, outermost]
  | cons node rest ih =>
    simp only [openWalk, List.mem_append, or_and_right, exists_or, ih]
    cases rest with
    | nil =>
      have hwalk := exists_walk_iff node name
      simpa [outermost] using hwalk
    | cons parent rest =>
      have hdeep : ¬ ∃ s ∈ node.walk ((parent :: rest).length + 1), s.depth = 1 ∧ s.name = name := by
        rintro ⟨s, hs, hdepth, -⟩
        have := le_depth_of_mem_walkChild _ hs
        rw [List.length_cons] at this
        omega
      rw [or_iff_left hdeep, outermost]

/-- A header or footer against the closed nodes of its name and the outermost open
node, which is in its place before it is closed. -/
def Slot (name : String) (held : Option SosiNode) (closed : List SosiNode)
    (top : Option (String × ℕ)) : Prop :=
  (held.toList = closed.filter (·.name = name) ∧ top.map Prod.fst ≠ some name) ∨
    (held.isSome ∧ closed.filter (·.name = name) = [] ∧ top.map Prod.fst = some name)

/-- The closed nodes of depth one and the open nodes are the sections of the lines; the
next line has a larger number than all. -/
structure StackHolds (lines : List (Reading × ℕ)) (next : ℕ) (closed : List SosiNode)
    (st : ParseState) : Prop where
  walk : sections lines = closed.flatMap (·.walk 1) ++ openWalk st.stack
  children : st.tree.children = closed.filter (isObject ·.name)
  header : Slot "HODE" st.tree.header closed (outermost st.stack)
  footer : Slot "SLUTT" st.tree.footer closed (outermost st.stack)
  lines : (closed.map (·.sourceLine) ++ ((outermost st.stack).map Prod.snd).toList ++
    [next]).Pairwise (· < ·)

theorem Slot.isSome_iff {name : String} {held : Option SosiNode} {closed : List SosiNode}
    {top : Option (String × ℕ)} (h : Slot name held closed top) :
    held.isSome ↔ (∃ node ∈ closed, node.name = name) ∨ top.map Prod.fst = some name := by
  rcases h with ⟨hheld, hopen⟩ | ⟨hheld, -, hopen⟩
  · rw [or_iff_left hopen]
    constructor
    · intro hsome
      obtain ⟨node, rfl⟩ := Option.isSome_iff_exists.mp hsome
      have hmem : node ∈ closed.filter (·.name = name) := hheld ▸ List.mem_singleton_self node
      exact ⟨node, List.mem_of_mem_filter hmem, by simpa using List.of_mem_filter hmem⟩
    · rintro ⟨node, hnode, hname⟩
      have hmem : node ∈ held.toList := by
        rw [hheld, List.mem_filter]
        exact ⟨hnode, by simpa using hname⟩
      exact Option.isSome_iff_exists.mpr ⟨node, Option.mem_toList.mp hmem⟩
  · exact iff_of_true hheld (.inr hopen)

/-- The header, or the footer, when the outermost node is closed. -/
theorem Slot.close {name : String} {held : Option SosiNode} {closed : List SosiNode}
    {node : SosiNode} (h : Slot name held closed (some (node.name, node.sourceLine))) :
    Slot name (if node.name = name then some node else held) (closed ++ [node]) none := by
  refine .inl ⟨?_, by simp⟩
  rw [List.filter_append]
  rcases h with ⟨hheld, hopen⟩ | ⟨-, hclosed, hopen⟩
  · have hne : node.name ≠ name := fun hname => hopen (congrArg some hname)
    simp [hne, hheld]
  · have hname : node.name = name := Option.some.inj hopen
    simp [hname, hclosed]

theorem SosiTree.close_eq (tree : SosiTree) (node : SosiNode) :
    tree.close node =
      { header := if node.name = "HODE" then some node else tree.header
        footer := if node.name = "SLUTT" then some node else tree.footer
        children := tree.children ++ [node].filter (isObject ·.name) } := by
  by_cases hheader : node.name = "HODE"
  · simp [close, isObject, hheader]
  by_cases hfooter : node.name = "SLUTT"
  · simp [close, isObject, hfooter]
  · simp [close, isObject, hheader, hfooter]

variable {lines : List (Reading × ℕ)} {next : ℕ} {closed : List SosiNode} {st : ParseState}

/-- Closing a node changes no section. -/
theorem StackHolds.pop (h : StackHolds lines next closed st) (hopen : st.stack ≠ []) :
    ∃ closed', StackHolds lines next closed' st.pop ∧ st.pop.stack.length + 1 = st.stack.length := by
  obtain ⟨tree, stack⟩ := st
  obtain ⟨hwalk, hchildren, hheader, hfooter, hlines⟩ := h
  dsimp only at hwalk hchildren hheader hfooter hlines
  -- an outermost node goes to the tree, an inner one to its parent
  rcases stack with - | ⟨node, - | ⟨parent, rest⟩⟩
  · exact absurd rfl hopen
  · refine ⟨closed ++ [node], ⟨?_, ?_, ?_, ?_, ?_⟩, rfl⟩
    · rw [hwalk, List.flatMap_append, List.flatMap_singleton]
      exact (List.append_nil _).symm
    · show (tree.close node).children = _
      rw [SosiTree.close_eq, List.filter_append, ← hchildren]
    · show Slot "HODE" (tree.close node).header _ none
      rw [SosiTree.close_eq]
      exact hheader.close
    · show Slot "SLUTT" (tree.close node).footer _ none
      rw [SosiTree.close_eq]
      exact hfooter.close
    · show ((closed ++ [node]).map _ ++ [] ++ [next]).Pairwise _
      rw [List.map_append, List.append_nil]
      exact hlines
  · have hsame : outermost (parent.adopt node :: rest) = outermost (node :: parent :: rest) := by
      cases rest <;> rfl
    refine ⟨closed, ⟨?_, hchildren, ?_, ?_, ?_⟩, rfl⟩
    · rw [hwalk]
      show _ = _ ++ (openWalk rest ++ (parent.adopt node).walk (rest.length + 1))
      rw [SosiNode.walk_adopt, ← List.append_assoc (openWalk rest)]
      rfl
    · show Slot "HODE" tree.header closed (outermost (parent.adopt node :: rest))
      rwa [hsame]
    · show Slot "SLUTT" tree.footer closed (outermost (parent.adopt node :: rest))
      rwa [hsame]
    · show (_ ++ ((outermost (parent.adopt node :: rest)).map Prod.snd).toList ++ _).Pairwise _
      rwa [hsame]

/-- Closing down to a depth. -/
theorem StackHolds.popTo {depth : ℕ} (h : StackHolds lines next closed st) (hpos : 1 ≤ depth)
    (hdepth : depth ≤ st.stack.length + 1) :
    ∃ closed', StackHolds lines next closed' (st.popTo depth) ∧
      (st.popTo depth).stack.length + 1 = depth := by
  obtain ⟨k, hk⟩ := Nat.exists_eq_add_of_le hdepth
  rw [ParseState.popTo, show st.stack.length + 1 - depth = k by omega]
  clear hdepth
  induction k generalizing st closed with
  | zero => exact ⟨closed, h, by simpa using hk⟩
  | succ k ih =>
    have hopen : st.stack ≠ [] := by
      intro hnil
      rw [hnil, List.length_nil] at hk
      omega
    obtain ⟨closed', hpop, hlength⟩ := h.pop hopen
    rw [Function.iterate_succ_apply]
    exact ih hpop (by omega)

/-! ### One line -/

/-- Between two lines the innermost open node is the last directive, without nodes
below it. -/
structure Settled (lines : List (Reading × ℕ)) (next : ℕ) (closed : List SosiNode)
    (st : ParseState) : Prop extends StackHolds lines next closed st where
  leafy : ∀ node ∈ st.stack.head?, ∀ depth, walkChildren (depth + 1) node.children = []
  start : st.stack = [] → closed = []

theorem settled_start : Settled [] 1 [] {} where
  walk := rfl
  children := rfl
  header := .inl ⟨rfl, nofun⟩
  footer := .inl ⟨rfl, nofun⟩
  lines := List.pairwise_singleton _ _
  leafy := nofun
  start := fun _ => rfl

/-- The sections end with the innermost open node. -/
theorem Settled.last (h : Settled lines next closed st) :
    (st.stack = [] ∧ sections lines = []) ∨
      ∃ node rest, st.stack = node :: rest ∧
        sections lines = closed.flatMap (·.walk 1) ++ openWalk rest ++
          [⟨rest.length + 1, node.name, node.value, childRecords node.children, node.sourceLine⟩] := by
  have hwalk := h.walk
  have hleafy := h.leafy
  cases hstack : st.stack with
  | nil =>
    rw [hstack, h.start hstack] at hwalk
    exact .inl ⟨rfl, hwalk⟩
  | cons node rest =>
    rw [hstack] at hwalk hleafy
    refine .inr ⟨node, rest, rfl, ?_⟩
    rw [hwalk, openWalk, SosiNode.walk_eq, hleafy node rfl, List.append_assoc]

/-- The depths of the directives are those of the sections. -/
theorem depths_eq (lines : List (Reading × ℕ)) :
    (lines.map Prod.fst).filterMap Reading.depth? = (sections lines).map (·.depth) := by
  have hdepths := congrArg (List.map Prod.fst) (sections_directives lines)
  rw [List.map_map, List.map_filterMap] at hdepths
  rw [List.filterMap_map, show (sections lines).map (·.depth) = _ from hdepths]
  refine List.filterMap_congr fun line _ => ?_
  cases h : line.1.depth? <;> simp [h]

/-- As many nodes are open as the last directive is deep. -/
theorem Settled.length (h : Settled lines next closed st) :
    st.stack.length = previousDepth (lines.map Prod.fst) := by
  rw [previousDepth, depths_eq]
  rcases h.last with ⟨hstack, hsections⟩ | ⟨node, rest, hstack, hsections⟩
  · rw [hstack, hsections]
    rfl
  · rw [hstack, hsections]
    simp

theorem Settled.stack_eq_nil_iff (h : Settled lines next closed st) :
    st.stack = [] ↔ (lines.map Prod.fst).filterMap Reading.depth? = [] := by
  rw [depths_eq, List.map_eq_nil_iff]
  rcases h.last with ⟨hstack, hsections⟩ | ⟨node, rest, hstack, hsections⟩
  · exact iff_of_true hstack hsections
  · rw [hstack, hsections]
    simp

/-- A header or footer is held when a directive of depth one had its name. -/
theorem StackHolds.isSome_iff (h : StackHolds lines next closed st) {name : String} {held : Option SosiNode}
    (hslot : Slot name held closed (outermost st.stack)) :
    held.isSome ↔ ∃ payload, Reading.directive 1 payload ∈ lines.map Prod.fst ∧
      directiveName payload = name := by
  rw [← exists_section_iff, hslot.isSome_iff, h.walk, ← exists_openWalk_iff]
  simp only [List.mem_append, or_and_right, exists_or, List.mem_flatMap]
  refine or_congr_left ⟨?_, ?_⟩
  · rintro ⟨node, hnode, hname⟩
    obtain ⟨s, hs, hdepth, hsname⟩ := (exists_walk_iff node name).mpr hname
    exact ⟨s, ⟨node, hnode, hs⟩, hdepth, hsname⟩
  · rintro ⟨s, ⟨node, hnode, hs⟩, hdepth, hsname⟩
    exact ⟨node, hnode, (exists_walk_iff node name).mp ⟨s, hs, hdepth, hsname⟩⟩

theorem StackHolds.later (h : StackHolds lines next closed st) {next' : ℕ} (hle : next ≤ next') :
    StackHolds lines next' closed st where
  walk := h.walk
  children := h.children
  header := h.header
  footer := h.footer
  lines := by
    have hlines := h.lines
    rw [List.pairwise_append] at hlines ⊢
    refine ⟨hlines.1, List.pairwise_singleton _ _, ?_⟩
    intro a ha b hb
    obtain rfl := List.mem_singleton.mp hb
    exact (hlines.2.2 a ha next (List.mem_singleton_self _)).trans_le hle

/-- A line that belongs to the innermost open node. -/
theorem Settled.innermost (h : Settled lines next closed st) {line : Reading × ℕ}
    {node node' : SosiNode} {rest : List SosiNode} (hstack : st.stack = node :: rest)
    (f : Section → Section) (hline : readSection (sections lines) line = (sections lines).modifyLast f)
    (hnode : ∀ depth, node'.walk depth =
      [f ⟨depth, node.name, node.value, childRecords node.children, node.sourceLine⟩])
    (hname : node'.name = node.name) (hsource : node'.sourceLine = node.sourceLine) :
    Settled (lines ++ [line]) (next + 1) closed { st with stack := node' :: rest } := by
  have hlater := h.toStackHolds.later (Nat.le_succ next)
  have htop : outermost (node' :: rest) = outermost st.stack := by
    rw [hstack]
    cases rest with
    | nil => rw [outermost, outermost, hname, hsource]
    | cons parent rest => rfl
  have hleafy : ∀ depth, walkChildren (depth + 1) node'.children = [] := by
    intro depth
    have hwalk := hnode depth
    rw [SosiNode.walk_eq] at hwalk
    exact (List.cons.inj hwalk).2
  refine ⟨⟨?_, h.children, ?_, ?_, ?_⟩, ?_, nofun⟩
  · -- the last section is that of the innermost node
    rcases h.last with ⟨hnil, -⟩ | ⟨node₁, rest₁, hstack₁, hsections⟩
    · rw [hstack] at hnil
      cases hnil
    · rw [hstack] at hstack₁
      cases hstack₁
      rw [sections_concat, hline, hsections, List.modifyLast_concat]
      show _ = _ ++ (openWalk rest ++ node'.walk (rest.length + 1))
      rw [hnode, List.append_assoc]
  · rw [htop]
    exact h.header
  · rw [htop]
    exact h.footer
  · rw [htop]
    exact hlater.lines
  · rintro _ ⟨⟩
    exact hleafy

/-! ### Readings -/

/-- What a line does, when it is read by itself first. -/
def parseReading (st : ParseState) (sourceLine : ℕ) : Reading → Except PyError ParseState
  | .directive depth payload =>
    if depth > st.stack.length + 1 then sosiError sourceLine s!"invalid nesting depth {depth}"
    else do
      let node ← parseNode payload sourceLine
      openNode (st.popTo depth) node depth sourceLine
  | .coordinate payload =>
    match st.stack with
    | [] => sosiError sourceLine "coordinate record without a parent key"
    | node :: rest => do
      let coordinate ← parseCoordinate env payload sourceLine
      .ok { st with stack := { node with children := node.children ++ [coordinate] } :: rest }
  | .continuation payload =>
    match st.stack with
    | [] => sosiError sourceLine "coordinate record without a parent key"
    | node :: rest => .ok { st with stack := appendContinuation node payload :: rest }

variable {env}

/-- The parser counts the leading dots. -/
theorem directiveDepth_eq (line : List Char) : directiveDepth line = leadingDots line := by
  induction line with
  | nil => rfl
  | cons c rest ih =>
    rw [directiveDepth] at ih ⊢
    rw [leadingDots]
    by_cases hdot : c = '.'
    · rw [if_pos hdot, List.takeWhile_cons_of_pos (by simpa using hdot), List.length_cons, ih]
    · rw [if_neg hdot, List.takeWhile_cons_of_neg (by simpa using hdot)]
      rfl

theorem leadingDots_pos {line : List Char} : 0 < leadingDots line ↔ line.head? = some '.' := by
  cases line with
  | nil => simp [leadingDots]
  | cons c rest =>
    rw [leadingDots, List.head?_cons, Option.some.injEq]
    by_cases hdot : c = '.' <;> simp [hdot]

/-- The parser looks at the first token. -/
theorem looksLikeCoordinatePayload_eq (payload : String) :
    looksLikeCoordinatePayload env payload = startsWithNumber env payload := by
  unfold looksLikeCoordinatePayload startsWithNumber coordinateValues
  simp only
  generalize ((splitSpace (strip ((splitDots [] payload.toList).headD ""))).head?.bind
    fun token => token.toList.head?) = first
  cases first with
  | none => rfl
  | some c => simp [Bool.or_assoc]

/-- The reading of a line, in the words of the parser. -/
theorem readLine_eq (rawLine : String) :
    readLine env rawLine =
      if strip rawLine = "" then none
      else if (strip rawLine).toList.head? = some '.' then
        some (.directive (directiveDepth (strip rawLine).toList) (strip (String.ofList
          ((strip rawLine).toList.drop (directiveDepth (strip rawLine).toList)))))
      else if looksLikeCoordinatePayload env (strip rawLine) then some (.coordinate (strip rawLine))
      else some (.continuation (strip rawLine)) := by
  simp only [readLine, leadingDots_pos, directivePayload, directiveDepth_eq,
    looksLikeCoordinatePayload_eq]

theorem parseLine_eq (st : ParseState) (rawLine : String) (sourceLine : ℕ) :
    parseLine env st rawLine sourceLine =
      ((readLine env rawLine).map (parseReading env st sourceLine)).getD (.ok st) := by
  rw [parseLine, readLine_eq]
  by_cases hblank : strip rawLine = ""
  · simp [hblank]
  by_cases hdots : (strip rawLine).toList.head? = some '.'
  · simp only [hblank, hdots, if_false, if_true, Option.map_some, Option.getD_some, parseReading]
  cases hstack : st.stack with
  | nil =>
    by_cases hlooks : looksLikeCoordinatePayload env (strip rawLine) = true
    · simp [hblank, hdots, hlooks, hstack, parseReading]
    · simp [hblank, hdots, hlooks, hstack, parseReading]
  | cons node rest =>
    by_cases hlooks : looksLikeCoordinatePayload env (strip rawLine) = true
    · simp only [hblank, hdots, hlooks, hstack, if_false, if_true, attachRecord, parseReading,
        Option.map_some, Option.getD_some]
      cases parseCoordinate env (strip rawLine) sourceLine <;> rfl
    · simp [hblank, hdots, hlooks, hstack, parseReading, attachRecord, bind, Except.bind]

/-- The node of a directive, before anything belongs to it. -/
def directiveNode (payload : String) (sourceLine : ℕ) : SosiNode :=
  ⟨directiveName payload, directiveValue payload, [], sourceLine⟩

theorem parseNode_eq (payload : String) (sourceLine : ℕ) :
    parseNode payload sourceLine =
      if payload = "" then sosiError sourceLine "empty SOSI directive"
      else .ok (directiveNode payload sourceLine) :=
  rfl

/-- What `strip` leaves does not begin with a space. -/
theorem head?_strip {s : String} {c : Char} (h : (strip s).toList.head? = some c) :
    isSpace c = false := by
  rw [strip, String.toList_ofList] at h
  obtain ⟨rest, hrest⟩ := List.head?_eq_some_iff.mp h
  have hprefix : c :: rest <+: s.toList.dropWhile isSpace := by
    rw [← hrest]
    exact List.rdropWhile_prefix isSpace _
  obtain ⟨tail, htail⟩ := hprefix
  have hne : s.toList.dropWhile isSpace ≠ [] := by
    rw [← htail]
    exact List.cons_ne_nil _ _
  have hhead := List.head_dropWhile_not isSpace hne
  simpa [← htail] using hhead

/-- An attribute always has a name. -/
theorem parseInlineAttribute_strip {segment : String} (h : strip segment ≠ "") (sourceLine : ℕ) :
    parseInlineAttribute (strip segment) sourceLine =
      .ok ⟨(partition ' ' (strip segment)).1, orNone (partition ' ' (strip segment)).2⟩ := by
  have hname : (partition ' ' (strip segment)).1 ≠ "" := by
    cases hchars : (strip segment).toList with
    | nil => exact absurd (String.toList_inj.mp hchars) h
    | cons c rest =>
      have hspace : isSpace c = false := head?_strip (by rw [hchars]; rfl)
      have hne : c ≠ ' ' := by
        rintro rfl
        cases hspace
      intro hempty
      have hlist := congrArg String.toList hempty
      rw [partition, String.toList_ofList, hchars, List.takeWhile_cons_of_pos (by simpa using hne)] at hlist
      cases hlist
  rw [parseInlineAttribute]
  exact if_neg hname

theorem headD_map_strip (segments : List String) :
    (segments.map strip).headD "" = strip (segments.headD "") := by
  cases segments with
  | nil => decide
  | cons segment segments => rfl

theorem coordinateValues_ne {payload : String} (h : looksLikeCoordinatePayload env payload = true) :
    strip ((splitDots [] payload.toList).headD "") ≠ "" := by
  intro hempty
  delta looksLikeCoordinatePayload at h
  simp only [hempty] at h
  cases h

/-- A coordinate record is refused for a token that is no number, and for nothing else. -/
theorem parseCoordinate_eq {payload : String} (hlooks : looksLikeCoordinatePayload env payload = true)
    (sourceLine : ℕ) :
    (∀ token ∈ coordinateValues payload, env.isInt token ∨ env.isFloat token) ∧
        parseCoordinate env payload sourceLine =
          .ok (.coordinate (coordinateValues payload) (coordinateAttributes payload) sourceLine) ∨
      (∃ token ∈ coordinateValues payload, ¬ (env.isInt token ∨ env.isFloat token)) ∧
        ∃ e, parseCoordinate env payload sourceLine = .error e := by
  have hfold : splitSpace (strip ((splitDots [] payload.toList).headD "")) =
      coordinateValues payload := rfl
  rw [parseCoordinate]
  simp only [headD_map_strip, hfold]
  rw [if_neg (coordinateValues_ne hlooks)]
  by_cases hall : ∀ token ∈ coordinateValues payload, env.isInt token ∨ env.isFloat token
  · refine .inl ⟨hall, ?_⟩
    have hvalues : (coordinateValues payload).mapM (fun token => parseNumber env token sourceLine) =
        .ok (coordinateValues payload) := by
      have hmap := Except.mapM_ok (g := id) fun token htoken =>
        show parseNumber env token sourceLine = .ok token from if_pos (hall token htoken)
      rwa [List.map_id] at hmap
    -- the segments after the first are named, since none is empty
    have hattributes : ((((splitDots [] payload.toList).map strip).drop 1).filter (· ≠ "")).mapM
        (fun segment => parseInlineAttribute segment sourceLine) =
          .ok (coordinateAttributes payload) := by
      refine Except.mapM_ok fun segment hsegment => ?_
      obtain ⟨hmem, hne⟩ := List.mem_filter.mp hsegment
      obtain ⟨raw, -, rfl⟩ := List.mem_map.mp (List.mem_of_mem_drop hmem)
      exact parseInlineAttribute_strip (by simpa using hne) sourceLine
    rw [hvalues, Except.ok_bind, hattributes, Except.ok_bind]
  · simp only [not_forall] at hall
    obtain ⟨token, htoken, hnumber⟩ := hall
    refine .inr ⟨⟨token, htoken, hnumber⟩, ?_⟩
    cases hvalues : (coordinateValues payload).mapM fun token => parseNumber env token sourceLine with
    | error e => exact ⟨e, rfl⟩
    | ok values =>
      -- `mapM` has read every token, this one too
      obtain ⟨value, hvalue⟩ := Except.exists_mapM_ok.mp ⟨values, hvalues⟩ token htoken
      rw [parseNumber, if_neg hnumber] at hvalue
      cases hvalue

/-! ### Directives -/

theorem directiveNode_walk (payload : String) (sourceLine depth : ℕ) :
    (directiveNode payload sourceLine).walk depth =
      [⟨depth, directiveName payload, directiveValue payload, [], sourceLine⟩] := by
  rw [SosiNode.walk_eq, directiveNode, walkChildren, childRecords, List.filterMap_nil]

theorem readSection_directive (before : List Section) (depth : ℕ) (payload : String)
    (sourceLine : ℕ) :
    readSection before (.directive depth payload, sourceLine) =
      before ++ [⟨depth, directiveName payload, directiveValue payload, [], sourceLine⟩] :=
  rfl

theorem Slot.other {name name' : String} {held : Option SosiNode} {n : ℕ}
    (h : Slot name held closed none) (hne : name' ≠ name) :
    Slot name held closed (some (name', n)) := by
  rcases h with ⟨hheld, -⟩ | ⟨-, -, hopen⟩
  · exact .inl ⟨hheld, fun hname => hne (Option.some.inj hname)⟩
  · cases hopen

theorem Slot.fill {name : String} {node : SosiNode} {n : ℕ} (h : Slot name none closed none) :
    Slot name (some node) closed (some (name, n)) := by
  rcases h with ⟨hheld, -⟩ | ⟨hsome, -, -⟩
  · exact .inr ⟨rfl, hheld.symm, rfl⟩
  · cases hsome

/-- A node is opened in the innermost open one. -/
theorem StackHolds.push (h : StackHolds lines next closed st) {payload : String} {node : SosiNode}
    (hnode : node = directiveNode payload next) (tree : SosiTree)
    (hchildren : tree.children = st.tree.children)
    (hheader : Slot "HODE" tree.header closed (outermost (node :: st.stack)))
    (hfooter : Slot "SLUTT" tree.footer closed (outermost (node :: st.stack))) :
    Settled (lines ++ [(.directive (st.stack.length + 1) payload, next)]) (next + 1) closed
      { tree := tree, stack := node :: st.stack } where
  walk := by
    show _ = _ ++ (openWalk st.stack ++ node.walk (st.stack.length + 1))
    rw [sections_concat, readSection_directive, hnode, directiveNode_walk, h.walk, List.append_assoc]
  children := hchildren.trans h.children
  header := hheader
  footer := hfooter
  lines := by
    have hlines := h.lines
    have hline : node.sourceLine = next := by
      rw [hnode]
      rfl
    show (_ ++ ((outermost (node :: st.stack)).map Prod.snd).toList ++ [next + 1]).Pairwise _
    cases hstack : st.stack with
    | nil =>
      rw [hstack] at hlines
      simp only [outermost, Option.map_none, Option.toList_none, List.append_nil] at hlines
      rw [outermost, hline]
      refine List.pairwise_append.mpr ⟨hlines, List.pairwise_singleton _ _, ?_⟩
      intro a ha b hb
      obtain rfl := List.mem_singleton.mp hb
      rcases List.mem_append.mp ha with ha | ha
      · have hlt := (List.pairwise_append.mp hlines).2.2 a ha next (List.mem_singleton_self _)
        omega
      · obtain rfl := List.mem_singleton.mp ha
        exact Nat.lt_succ_self _
    | cons parent rest =>
      -- the outermost node is still the same
      have hlater := (h.later (Nat.le_succ next)).lines
      rw [hstack] at hlater
      exact hlater
  leafy := by
    rintro _ ⟨⟩ depth
    rw [hnode, directiveNode, walkChildren]
  start := nofun

/-- A second header or footer. -/
def IsSecond (before : List Reading) (depth : ℕ) (payload : String) : Prop :=
  depth = 1 ∧ (directiveName payload = "HODE" ∨ directiveName payload = "SLUTT") ∧
    ∃ earlier, Reading.directive 1 earlier ∈ before ∧ directiveName earlier = directiveName payload

/-- A node is opened unless it is a second header or footer. -/
theorem StackHolds.openNode (h : StackHolds lines next closed st) (payload : String) :
    ¬ IsSecond (lines.map Prod.fst) (st.stack.length + 1) payload ∧
        (∃ st', openNode st (directiveNode payload next) (st.stack.length + 1) next = .ok st' ∧
          Settled (lines ++ [(.directive (st.stack.length + 1) payload, next)]) (next + 1) closed
            st') ∨
      IsSecond (lines.map Prod.fst) (st.stack.length + 1) payload ∧
        ∃ e, openNode st (directiveNode payload next) (st.stack.length + 1) next = .error e := by
  have hheader := h.header
  have hfooter := h.footer
  obtain ⟨node, hnode⟩ : ∃ node, node = directiveNode payload next := ⟨_, rfl⟩
  have hpush := h.push hnode
  have hname : node.name = directiveName payload := by
    rw [hnode]
    rfl
  rw [← hnode, Gcimport.openNode, hname]
  cases hstack : st.stack with
  | nil =>
    rw [hstack] at hheader hfooter hpush
    rw [outermost, hname] at hpush
    -- at depth one the name decides: a header, a footer or an object
    by_cases hhode : directiveName payload = "HODE"
    · rw [if_pos ⟨rfl, hhode⟩]
      cases hheld : st.tree.header with
      | some held =>
        have hearlier := (h.isSome_iff h.header).mp (by rw [hheld]; rfl)
        exact .inr ⟨⟨rfl, .inl hhode, by rwa [hhode]⟩, _, rfl⟩
      | none =>
        rw [hheld] at hheader
        rw [hhode] at hpush
        refine .inl ⟨?_, _, rfl, hpush _ rfl hheader.fill (hfooter.other (by decide))⟩
        rintro ⟨-, -, hearlier⟩
        rw [hhode, ← h.isSome_iff h.header, hheld] at hearlier
        cases hearlier
    rw [if_neg (fun hd => hhode hd.2)]
    by_cases hslutt : directiveName payload = "SLUTT"
    · rw [if_pos ⟨rfl, hslutt⟩]
      cases hheld : st.tree.footer with
      | some held =>
        have hearlier := (h.isSome_iff h.footer).mp (by rw [hheld]; rfl)
        exact .inr ⟨⟨rfl, .inr hslutt, by rwa [hslutt]⟩, _, rfl⟩
      | none =>
        rw [hheld] at hfooter
        rw [hslutt] at hpush
        refine .inl ⟨?_, _, rfl, hpush _ rfl (hheader.other (by decide)) hfooter.fill⟩
        rintro ⟨-, -, hearlier⟩
        rw [hslutt, ← h.isSome_iff h.footer, hheld] at hearlier
        cases hearlier
    · rw [if_neg (fun hd => hslutt hd.2)]
      refine .inl ⟨?_, _, rfl, hpush _ rfl (hheader.other hhode) (hfooter.other hslutt)⟩
      rintro ⟨-, hname, -⟩
      exact hname.elim hhode hslutt
  | cons parent rest =>
    -- deeper nodes are never second
    have hdeep : ¬ (parent :: rest).length + 1 = 1 := by simp
    rw [hstack] at hheader hfooter hpush
    rw [if_neg (fun hd => hdeep hd.1), if_neg (fun hd => hdeep hd.1)]
    exact .inl ⟨fun hsecond => hdeep hsecond.1, _, rfl, hpush _ rfl hheader hfooter⟩

variable (env) in
/-- A directive is refused for its depth, for having no name, and for a second header or
footer. -/
theorem Settled.directive (h : Settled lines next closed st) {depth : ℕ} (hpos : 1 ≤ depth)
    (payload : String) :
    ¬ Refused env (lines.map Prod.fst) (.directive depth payload) ∧
        (∃ st' closed', parseReading env st next (.directive depth payload) = .ok st' ∧
          Settled (lines ++ [(.directive depth payload, next)]) (next + 1) closed' st') ∨
      Refused env (lines.map Prod.fst) (.directive depth payload) ∧
        ∃ e, parseReading env st next (.directive depth payload) = .error e := by
  rw [parseReading, Refused, ← h.length]
  by_cases hdepth : st.stack.length + 1 < depth
  · exact .inr ⟨.inl hdepth, _, if_pos hdepth⟩
  rw [if_neg hdepth, parseNode_eq]
  by_cases hpayload : payload = ""
  · rw [if_pos hpayload]
    exact .inr ⟨.inr (.inl hpayload), _, rfl⟩
  rw [if_neg hpayload, Except.ok_bind]
  obtain ⟨closed', hpopped, hlength⟩ := h.popTo hpos (by omega)
  have hopened := hpopped.openNode payload
  rw [hlength] at hopened
  rcases hopened with ⟨hsecond, st', hok, hsettled⟩ | ⟨hsecond, herror⟩
  · refine .inl ⟨?_, st', closed', hok, hsettled⟩
    rintro (hdeep | hempty | hsecond')
    · exact hdepth hdeep
    · exact hpayload hempty
    · exact hsecond hsecond'
  · exact .inr ⟨.inr (.inr hsecond), herror⟩

/-! ### Other lines -/

variable (env) in
/-- A record is refused before any directive and for a token that is no number. -/
theorem Settled.coordinate (h : Settled lines next closed st) {payload : String}
    (hlooks : looksLikeCoordinatePayload env payload = true) :
    ¬ Refused env (lines.map Prod.fst) (.coordinate payload) ∧
        (∃ st' closed', parseReading env st next (.coordinate payload) = .ok st' ∧
          Settled (lines ++ [(.coordinate payload, next)]) (next + 1) closed' st') ∨
      Refused env (lines.map Prod.fst) (.coordinate payload) ∧
        ∃ e, parseReading env st next (.coordinate payload) = .error e := by
  rw [parseReading, Refused, ← h.stack_eq_nil_iff]
  cases hstack : st.stack with
  | nil => exact .inr ⟨.inl rfl, _, rfl⟩
  | cons node rest =>
    rcases parseCoordinate_eq hlooks next with ⟨hnumbers, hok⟩ | ⟨hnumbers, e, herror⟩
    · refine .inl ⟨?_, _, closed, by rw [hok]; rfl, ?_⟩
      · rintro (hnil | ⟨token, htoken, hnot⟩)
        · cases hnil
        · exact hnot (hnumbers token htoken)
      · refine h.innermost hstack _ rfl ?_ rfl rfl
        intro depth
        have hleafy := h.leafy node (by rw [hstack]; rfl) depth
        rw [SosiNode.walk_eq, walkChildren_append, hleafy, childRecords, List.filterMap_append]
        rfl
    · exact .inr ⟨.inr hnumbers, e, by rw [herror]; rfl⟩

variable (env) in
/-- A continuation line is refused before any directive. -/
theorem Settled.continuation (h : Settled lines next closed st) (payload : String) :
    ¬ Refused env (lines.map Prod.fst) (.continuation payload) ∧
        (∃ st' closed', parseReading env st next (.continuation payload) = .ok st' ∧
          Settled (lines ++ [(.continuation payload, next)]) (next + 1) closed' st') ∨
      Refused env (lines.map Prod.fst) (.continuation payload) ∧
        ∃ e, parseReading env st next (.continuation payload) = .error e := by
  rw [parseReading, Refused, ← h.stack_eq_nil_iff]
  cases hstack : st.stack with
  | nil => exact .inr ⟨rfl, _, rfl⟩
  | cons node rest =>
    refine .inl ⟨List.cons_ne_nil _ _, _, closed, rfl, h.innermost hstack _ rfl ?_ rfl rfl⟩
    intro depth
    have hleafy := h.leafy node (by rw [hstack]; rfl) depth
    rw [SosiNode.walk_eq]
    show _ :: walkChildren (depth + 1) node.children = _
    rw [hleafy]
    rfl

/-! ### Whole texts -/

variable (env) in
/-- A line that is not blank is refused, or read. -/
theorem Settled.line (h : Settled lines next closed st) {rawLine : String} {reading : Reading}
    (hread : readLine env rawLine = some reading) :
    ¬ Refused env (lines.map Prod.fst) reading ∧
        (∃ st' closed', parseLine env st rawLine next = .ok st' ∧
          Settled (lines ++ [(reading, next)]) (next + 1) closed' st') ∨
      Refused env (lines.map Prod.fst) reading ∧ ∃ e, parseLine env st rawLine next = .error e := by
  rw [parseLine_eq, hread, Option.map_some, Option.getD_some]
  rw [readLine] at hread
  split_ifs at hread with hblank hdots hlooks
  · cases hread
    exact h.directive env hdots _
  · cases hread
    exact h.coordinate env ((looksLikeCoordinatePayload_eq _).trans hlooks)
  · cases hread
    exact h.continuation env _

variable (env) in
/-- Some line is refused after the lines before. -/
def IsRefusedAfter (before lines : List (Reading × ℕ)) : Prop :=
  ∃ between line after, lines = between ++ line :: after ∧
    Refused env ((before ++ between).map Prod.fst) line.1

theorem isRefusedAfter_cons {before lines : List (Reading × ℕ)} {line : Reading × ℕ} :
    IsRefusedAfter env before (line :: lines) ↔
      Refused env (before.map Prod.fst) line.1 ∨ IsRefusedAfter env (before ++ [line]) lines := by
  constructor
  · rintro ⟨- | ⟨first, between⟩, line', after, heq, hrefused⟩
    · cases heq
      rw [List.append_nil] at hrefused
      exact .inl hrefused
    · cases heq
      exact .inr ⟨between, line', after, rfl, by rwa [List.append_assoc]⟩
  · rintro (hrefused | ⟨between, line', after, rfl, hrefused⟩)
    · exact ⟨[], line, lines, rfl, by rwa [List.append_nil]⟩
    · exact ⟨line :: between, line', after, rfl, by rwa [List.append_assoc] at hrefused⟩

variable (env) in
/-- Line after line: the first one that is refused ends the run. -/
theorem Settled.run (rawLines : List String) {n : ℕ} (h : Settled lines (n + 1) closed st) :
    ¬ IsRefusedAfter env lines (readingsOf env (rawLines.zipIdx n)) ∧
        (∃ st' next closed', (rawLines.zipIdx n).foldlM
            (fun st x => parseLine env st x.1 (x.2 + 1)) st = .ok st' ∧
          Settled (lines ++ readingsOf env (rawLines.zipIdx n)) next closed' st') ∨
      IsRefusedAfter env lines (readingsOf env (rawLines.zipIdx n)) ∧
        ∃ e, (rawLines.zipIdx n).foldlM (fun st x => parseLine env st x.1 (x.2 + 1)) st = .error e := by
  induction rawLines generalizing n lines closed st with
  | nil =>
    refine .inl ⟨?_, st, n + 1, closed, rfl, ?_⟩
    · rintro ⟨between, line, after, heq, -⟩
      simp [readingsOf] at heq
    · rw [List.zipIdx_nil, readingsOf, List.filterMap_nil, List.append_nil]
      exact h
  | cons rawLine rawLines ih =>
    rw [List.zipIdx_cons, List.foldlM_cons, readingsOf, List.filterMap_cons]
    cases hread : readLine env rawLine with
    | none =>
      -- a blank line
      have hskip : parseLine env st rawLine (n + 1) = .ok st := by
        rw [parseLine_eq, hread]
        rfl
      have hlater : Settled lines (n + 1 + 1) closed st :=
        { h with toStackHolds := h.toStackHolds.later (Nat.le_succ _) }
      simp only [Option.map_none, hskip, Except.ok_bind]
      exact ih hlater
    | some reading =>
      simp only [Option.map_some, isRefusedAfter_cons]
      rcases h.line env hread with ⟨hnot, st', closed', hok, hsettled⟩ | ⟨hrefused, e, herror⟩
      · rw [hok, Except.ok_bind, or_iff_right hnot]
        have hrest := ih hsettled
        rw [List.append_assoc] at hrest
        exact hrest
      · refine .inr ⟨.inl hrefused, e, ?_⟩
        rw [herror]
        rfl

/-! ### The tree -/

/-- Objects, header and footer are the nodes of depth one. -/
theorem perm_nodes (closed : List SosiNode) :
    (closed.filter (isObject ·.name) ++ closed.filter (·.name = "HODE") ++
      closed.filter (·.name = "SLUTT")).Perm closed := by
  have hhode : (closed.filter fun node => !isObject node.name).filter (·.name = "HODE") =
      closed.filter (·.name = "HODE") := by
    rw [List.filter_filter]
    refine List.filter_congr fun node _ => ?_
    by_cases hname : node.name = "HODE" <;> simp [hname, isObject]
  have hslutt : (closed.filter fun node => !isObject node.name).filter
      (fun node => !decide (node.name = "HODE")) =
      closed.filter (·.name = "SLUTT") := by
    rw [List.filter_filter]
    refine List.filter_congr fun node _ => ?_
    by_cases hname : node.name = "SLUTT"
    · simp [hname, isObject]
    · by_cases hname' : node.name = "HODE" <;> simp [hname, hname', isObject]
  have hothers := List.filter_append_perm (·.name = "HODE")
    (closed.filter fun node => !isObject node.name)
  rw [hhode, hslutt] at hothers
  rw [List.append_assoc]
  exact (hothers.append_left _).trans (List.filter_append_perm (isObject ·.name) closed)

instance : Std.Total fun a b : SosiNode => a.sourceLine ≤ b.sourceLine where
  total a b := Nat.le_total a.sourceLine b.sourceLine

instance : IsTrans SosiNode fun a b => a.sourceLine ≤ b.sourceLine where
  trans _ _ _ := Nat.le_trans

/-- With no node open, the nodes of the tree are the closed ones in their order. -/
theorem StackHolds.nodes (h : StackHolds lines next closed st) (hstack : st.stack = []) :
    st.tree.nodes = closed := by
  have hheld {name : String} {held : Option SosiNode}
      (hslot : Slot name held closed (outermost st.stack)) :
      held.toList = closed.filter (·.name = name) := by
    rw [hstack] at hslot
    rcases hslot with ⟨hheld, -⟩ | ⟨-, -, hopen⟩
    · exact hheld
    · cases hopen
  have hlines := h.lines
  rw [hstack, List.append_assoc, List.pairwise_append, List.pairwise_map] at hlines
  rw [SosiTree.nodes, h.children, hheld h.header, hheld h.footer]
  have hsorted : closed.Pairwise fun a b => a.sourceLine ≤ b.sourceLine :=
    hlines.1.imp Nat.le_of_lt
  have hperm := (List.perm_insertionSort (fun a b : SosiNode => a.sourceLine ≤ b.sourceLine) _).trans
    (perm_nodes closed)
  refine List.Perm.eq_of_pairwise ?_ (List.pairwise_insertionSort _ _) hsorted hperm
  -- two nodes on one line are one node
  intro a b ha hb hab hba
  have hnodup : (closed.map (·.sourceLine)).Nodup :=
    List.pairwise_map.mpr (hlines.1.imp Nat.ne_of_lt)
  exact List.inj_on_of_nodup_map hnodup (hperm.mem_iff.mp ha) hb (Nat.le_antisymm hab hba)

/-! ### The statistics -/

/-- `Counter` counts. -/
theorem lookup_counts (names : List String) (name : String) :
    (names.foldl (fun counts name => Counts.add counts name 1) []).lookup name =
      if names.count name = 0 then none else some (names.count name) := by
  induction names using List.reverseRecOn with
  | nil => rfl
  | append_singleton names last ih =>
    rw [List.foldl_concat, Counts.add, List.count_append]
    by_cases hname : name = last
    · subst hname
      rw [lookup_dictSet_self, ih, List.count_singleton_self, if_neg (Nat.succ_ne_zero _)]
      by_cases hzero : names.count name = 0
      · simp [hzero]
      · rw [if_neg hzero]
        rfl
    · have hother : [last].count name = 0 := List.count_eq_zero.mpr (by simpa using hname)
      rw [lookup_dictSet_of_ne _ _ hname, ih, hother]
      rfl

/-- The only section of a node that can be an object's is its own. -/
theorem objects_walk (node : SosiNode) :
    (objects (node.walk 1)).map (·.name) = [node.name].filter isObject := by
  have hdeep : objects (walkChildren 2 node.children) = [] := by
    refine List.filter_eq_nil_iff.mpr fun s hs => ?_
    have hdepth := le_depth_of_mem_walkChildren _ hs
    have hne : s.depth ≠ 1 := by omega
    simp [hne]
  have hwalk : objects (node.walk 1) =
      [(⟨1, node.name, node.value, childRecords node.children, node.sourceLine⟩ : Section)].filter
        (fun s => s.depth = 1 ∧ isObject s.name) ++ objects (walkChildren 2 node.children) := by
    rw [SosiNode.walk_eq]
    exact List.filter_append [_] _
  rw [hwalk, hdeep, List.append_nil]
  cases hobject : isObject node.name <;> simp [hobject]

theorem objects_flatMap_walk (closed : List SosiNode) :
    (objects (closed.flatMap (·.walk 1))).map (·.name) =
      (closed.filter (isObject ·.name)).map (·.name) := by
  induction closed with
  | nil => rfl
  | cons node closed ih =>
    have happend : objects ((node :: closed).flatMap (·.walk 1)) =
        objects (node.walk 1) ++ objects (closed.flatMap (·.walk 1)) := List.filter_append _ _
    rw [happend, List.map_append, ih, objects_walk]
    cases hobject : isObject node.name <;> simp [hobject]

mutual

/-- The coordinate records below a child are those of its sections. -/
theorem length_iterChild (depth : ℕ) (child : SosiChild) :
    (iterChild child).length =
      (childRecords [child]).length + ((walkChild depth child).map (·.records.length)).sum := by
  cases child with
  | coordinate values attributes sourceLine => rfl
  | node name value children sourceLine =>
    rw [iterChild, walkChild, List.map_cons, List.sum_cons, length_iterChildren (depth + 1) children]
    exact (Nat.zero_add _).symm

theorem length_iterChildren (depth : ℕ) (children : List SosiChild) :
    (iterChildren children).length =
      (childRecords children).length + ((walkChildren depth children).map (·.records.length)).sum := by
  cases children with
  | nil => rfl
  | cons child children =>
    have hrecords : childRecords (child :: children) = childRecords [child] ++ childRecords children :=
      List.filterMap_append (l := [child])
    rw [iterChildren, walkChildren, List.length_append, length_iterChild depth child,
      length_iterChildren depth children, hrecords, List.length_append, List.map_append,
      List.sum_append]
    omega

end

/-- Below a node of depth one nothing changes. -/
theorem objectRecords_deep (under : Bool) {ss : List Section} (hdeep : ∀ s ∈ ss, 2 ≤ s.depth)
    (rest : List Section) :
    objectRecords under (ss ++ rest) =
      (if under then (ss.map (·.records.length)).sum else 0) + objectRecords under rest := by
  induction ss with
  | nil => cases under <;> simp
  | cons s ss ih =>
    have hne : s.depth ≠ 1 := by
      have := hdeep s List.mem_cons_self
      omega
    rw [List.cons_append, objectRecords, if_neg hne,
      ih fun s hs => hdeep s (List.mem_cons_of_mem _ hs)]
    cases under <;> simp [Nat.add_assoc]

theorem objectRecords_walk (under : Bool) (closed : List SosiNode) :
    objectRecords under (closed.flatMap (·.walk 1)) =
      ((closed.filter (isObject ·.name)).flatMap fun node => iterChildren node.children).length := by
  induction closed generalizing under with
  | nil => rfl
  | cons node closed ih =>
    have hdeep : ∀ s ∈ walkChildren 2 node.children, 2 ≤ s.depth :=
      fun s hs => le_depth_of_mem_walkChildren _ hs
    rw [List.flatMap_cons, SosiNode.walk_eq, List.cons_append, objectRecords, if_pos rfl,
      objectRecords_deep _ hdeep, ih]
    cases hobject : isObject node.name with
    | true =>
      have hfilter : (node :: closed).filter (isObject ·.name) =
          node :: closed.filter (isObject ·.name) := List.filter_cons_of_pos hobject
      rw [hfilter, List.flatMap_cons, List.length_append, length_iterChildren 2 node.children]
      simp [Nat.add_assoc]
    | false =>
      have hfilter : (node :: closed).filter (isObject ·.name) = closed.filter (isObject ·.name) :=
        List.filter_cons_of_neg (by simp [hobject])
      rw [hfilter]
      simp

/-- With no node open, the tree says what the lines say. -/
theorem StackHolds.readsAs (h : StackHolds lines next closed st) (hstack : st.stack = []) :
    ReadsAs st.tree lines := by
  have hwalk : st.tree.walk = sections lines := by
    rw [SosiTree.walk, h.nodes hstack, h.walk, hstack]
    exact (List.append_nil _).symm
  have hsections : sections lines = closed.flatMap (·.walk 1) := by
    rw [← hwalk, SosiTree.walk, h.nodes hstack]
  have hnames : (objects (sections lines)).map (·.name) = st.tree.children.map (·.name) := by
    rw [hsections, objects_flatMap_walk, h.children]
  refine ⟨hwalk, ?_, ?_, ?_, ?_⟩
  · rw [hwalk]
    exact sections_directives lines
  · have hlength := congrArg List.length hnames
    rw [List.length_map, List.length_map] at hlength
    exact hlength.symm
  · -- the counter counts names, the lines count sections
    intro name
    have hcount : (st.tree.children.map (·.name)).count name =
        (objects (sections lines)).countP (·.name = name) := by
      rw [← hnames, List.count, List.countP_map]
      refine List.countP_congr fun s _ => ?_
      simp
    have hlookup := lookup_counts (st.tree.children.map (·.name)) name
    rw [List.foldl_map, hcount] at hlookup
    exact hlookup
  · rw [hsections, objectRecords_walk, ← h.children]
    rfl

variable (env) in
/-- **The parser reads line by line.**  It raises nothing but `SosiParseError`, for a text with
a line that is refused and for no other; the tree of any other text says what its lines say. -/
theorem parseText_exact (text : String) :
    (parseText env text).Raises IsSosiParse ∧
      ((∃ e, parseText env text = .error e) ↔ IsRefused env (readLines env text)) ∧
      ∀ tree, parseText env text = .ok tree → ReadsAs tree (readLines env text) := by
  have hrun := settled_start.run env (splitLines [] (removePrefix "\ufeff" text).toList)
  have hrefused : IsRefusedAfter env [] (readLines env text) ↔ IsRefused env (readLines env text) :=
    Iff.rfl
  rw [readLines] at hrefused
  refine ⟨parseText_raises env text, ?_⟩
  rw [parseText, readLines]
  rcases hrun with ⟨hnot, st, next, closed, hok, hsettled⟩ | ⟨hrefuses, e, herror⟩
  · rw [hok, Except.ok_bind]
    obtain ⟨closed', hpopped, hlength⟩ := hsettled.popTo le_rfl (Nat.le_add_left _ _)
    have hnil : (st.popTo 1).stack = [] := List.length_eq_zero_iff.mp (by omega)
    refine ⟨iff_of_false nofun (hrefused.not.mp hnot), ?_⟩
    rintro tree ⟨⟩
    exact hpopped.readsAs hnil
  · rw [herror, Except.error_bind]
    exact ⟨iff_of_true ⟨e, rfl⟩ (hrefused.mp hrefuses), nofun⟩

end Gcimport
