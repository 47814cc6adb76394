import BuildingModel.Yaml.Node
import BuildingModel.Yaml.Scalar
import BuildingModel.Yaml.Tag

/-!
# Reading YAML

A text holds at most one document, which holds one node. Nodes are nested by indentation or within
brackets. A key without a mark of its own stands on one line with the colon behind it. Aliases are
replaced by the nodes that they name, which are complete before them.
-/
namespace BuildingModel.Yaml

/-- A place in a document, with the anchored nodes before it; an anchor whose node is not complete
has none. -/
structure Place where
  cursor : Cursor
  anchors : List (String × Option Node)

namespace Place

def moved (p : Place) (c : Cursor) : Place := { p with cursor := c }

/-- The next place with something other than blanks and comments. -/
def toToken (p : Place) (flow : Bool) : Place := p.moved (p.cursor.toToken flow)

/-- The place behind an indicator, where a key may or may not start. -/
def afterIndicator (p : Place) (startsKey : Bool) : Place :=
  p.moved ((p.cursor.skip 1).keys startsKey)

/-- The first character from here on. -/
def head? (p : Place) : Option Char := p.cursor.rest.head?

def column (p : Place) : Nat := p.cursor.column

/-- Whether an item or an explicit key starts here. -/
def startsWith (p : Place) (indicator : Char) : Bool :=
  p.cursor.startsKey && p.cursor.atIndicator indicator

def enter (p : Place) (anchor : Option String) (n : Option Node) : Place :=
  match anchor with
  | none => p
  | some name => { p with anchors := (name, n) :: p.anchors }

/-- The longest distance between the start of a key and its colon. -/
def keyLength : Nat := 1024

/-- Whether a colon at `q` makes what starts at `p` a key. -/
def reaches (p q : Place) : Bool :=
  q.cursor.line = p.cursor.line && q.cursor.offset ≤ p.cursor.offset + keyLength

end Place

/-- What stands before a node. -/
structure Properties where
  anchor : Option String
  tag : Option String

namespace Properties

def none : Properties := ⟨.none, .none⟩

def isEmpty (ps : Properties) : Bool := ps.anchor.isNone && ps.tag.isNone

/-- A node with the properties before it, and the place after it. -/
def finish (ps : Properties) (n : Node) (p : Place) : Node × Place :=
  let n := n.withTag ps.tag
  (n, p.enter ps.anchor (some n))

/-- The properties with one more at a place, and the place after it. -/
def read? (handles : Handles) (flow : Bool) (ps : Properties) (p : Place) :
    Option (Properties × Place) := do
  if p.head? = some '&' then
    let (name, c) ← anchor? p.cursor
    if ps.anchor.isSome then .none
    else some ({ ps with anchor := some name }, (p.moved c).enter (some name) .none)
  else
    let (tag, c) ← tag? handles flow p.cursor
    if ps.tag.isSome then .none else some ({ ps with tag := some tag }, p.moved c)

def startsAt (p : Place) : Bool := p.head? = some '&' || p.head? = some '!'

end Properties

/-- The node of an alias and the place after it. -/
def alias? (p : Place) : Option (Node × Place) := do
  let (name, c) ← anchor? p.cursor
  let n ← (p.anchors.lookup name).join
  some (n, p.moved c)

mutual

/-- A node that is written within brackets or on one line, after some properties; `steps` bounds its
parts. -/
def simple? (handles : Handles) :
    Nat → Bool → Nat → Properties → Place → Option (Node × Place)
  | 0, _, _, _, _ => none
  | steps + 1, flow, least, ps, p =>
    let q := p.toToken flow
    if q.cursor.atEnd then if ps.isEmpty then none else some (ps.finish .empty p)
    else if Properties.startsAt q then do
      let (ps, q) ← ps.read? handles flow q
      simple? handles steps flow least ps q
    else
      match q.head? with
      | some '*' => if ps.isEmpty then alias? q else none
      | some '[' => do
        let (ns, r) ← items? handles steps (q.afterIndicator true)
        some (ps.finish (.sequence none ns) r)
      | some '\x7b' => do
        let (ms, r) ← pairs? handles steps (q.afterIndicator true)
        some (ps.finish (.mapping none ms) r)
      | some '"' | some '\'' => do
        let (text, c) ← quoted? q.cursor
        some (ps.finish (.scalar none .quoted text) (q.moved c))
      | _ =>
        if startsPlain flow q.cursor.rest then do
          let (text, c) ← plain? flow least q.cursor
          some (ps.finish (.scalar none .plain text) (q.moved c))
        else if ps.isEmpty then none
        else some (ps.finish .empty p)

/-- The items of a list up to its closing bracket. -/
def items? (handles : Handles) : Nat → Place → Option (List Node × Place)
  | 0, _ => none
  | steps + 1, p => do
    let p := p.toToken true
    if p.head? = some ']' then some ([], p.afterIndicator false)
    else
      let (key, value, q) ← pair? handles steps ']' p
      let n := match value with
        | none => key
        | some v => .mapping none [(key, v)]
      let q := q.toToken true
      match q.head? with
      | some ',' =>
        let (ns, r) ← items? handles steps (q.afterIndicator true)
        some (n :: ns, r)
      | some ']' => some ([n], q.afterIndicator false)
      | _ => none

/-- The members of a mapping up to its closing brace. -/
def pairs? (handles : Handles) : Nat → Place → Option (List (Node × Node) × Place)
  | 0, _ => none
  | steps + 1, p => do
    let p := p.toToken true
    if p.head? = some '\x7d' then some ([], p.afterIndicator false)
    else
      let (key, value, q) ← pair? handles steps '\x7d' p
      let member := (key, value.getD .empty)
      let q := q.toToken true
      match q.head? with
      | some ',' =>
        let (ms, r) ← pairs? handles steps (q.afterIndicator true)
        some (member :: ms, r)
      | some '\x7d' => some ([member], q.afterIndicator false)
      | _ => none

/-- A node within brackets, with its value if it is a key. -/
def pair? (handles : Handles) :
    Nat → Char → Place → Option (Node × Option Node × Place)
  | 0, _, _ => none
  | steps + 1, closing, p => do
    if p.head? = some '?' then
      let (key, q) ← orEmpty? handles steps [':', ',', closing] (p.afterIndicator false)
      let q := q.toToken true
      if q.head? = some ':' then
        let (v, r) ← orEmpty? handles steps [',', closing] (q.afterIndicator false)
        some (key, some v, r)
      else some (key, some .empty, q)
    else
      let (key, q) ← simple? handles steps true 0 .none p
      let r := q.toToken true
      if r.head? = some ':' && p.reaches r then
        let (v, s) ← orEmpty? handles steps [',', closing] (r.afterIndicator false)
        some (key, some v, s)
      else some (key, none, r)

/-- A node within brackets, which is empty if one of some characters comes next. -/
def orEmpty? (handles : Handles) : Nat → List Char → Place → Option (Node × Place)
  | 0, _, _ => none
  | steps + 1, stops, p =>
    let q := p.toToken true
    if q.head?.any stops.contains then some (.empty, q)
    else simple? handles steps true 0 .none q

end

/-- A key that is written on one line before its colon, and the place behind that. -/
def key? (handles : Handles) (steps least : Nat) (p : Place) : Option (Node × Place) := do
  if !p.cursor.startsKey then none
  let (key, q) ← simple? handles steps false least .none p
  let r := q.toToken false
  if r.cursor.atIndicator ':' && p.reaches r then some (key, r.afterIndicator false) else none

mutual

/-- A node after some properties, which may be empty. It starts at or after the column `least`, but
the items of a sequence may start one column before it where `inMapping` says so. -/
def value? (handles : Handles) :
    Nat → Nat → Bool → Properties → Place → Option (Node × Place)
  | 0, _, _, _, _ => none
  | steps + 1, least, inMapping, ps, p =>
    let q := p.toToken false
    let isItem := q.startsWith '-' && (least ≤ q.column || (inMapping && q.column + 1 = least))
    if q.cursor.atEnd then some (ps.finish .empty q)
    else if isItem then do
      let (ns, r) ← sequence? handles steps q.column q
      some (ps.finish (.sequence none ns) r)
    else if q.column < least then some (ps.finish .empty q)
    else if q.startsWith '?' || (key? handles steps least q).isSome then do
      let (ms, r) ← mapping? handles steps q.column q
      some (ps.finish (.mapping none ms) r)
    else if Properties.startsAt q then do
      let (ps, q) ← ps.read? handles false q
      value? handles steps least inMapping ps q
    else if q.head? = some '|' || q.head? = some '>' then do
      let style := if q.head? = some '|' then ScalarStyle.literal else .folded
      let (text, c) ← block? least q.cursor
      some (ps.finish (.scalar none style text) (q.moved c))
    else simple? handles steps false least ps q

/-- The items of a sequence in a column. -/
def sequence? (handles : Handles) : Nat → Nat → Place → Option (List Node × Place)
  | 0, _, _ => none
  | steps + 1, column, p => do
    let (n, q) ← value? handles steps (column + 1) false .none (p.afterIndicator true)
    let q := q.toToken false
    if q.column = column && q.startsWith '-' then
      let (ns, r) ← sequence? handles steps column q
      some (n :: ns, r)
    else some ([n], q)

/-- The members of a mapping in a column. -/
def mapping? (handles : Handles) :
    Nat → Nat → Place → Option (List (Node × Node) × Place)
  | 0, _, _ => none
  | steps + 1, column, p => do
    let (member, q) ← member? handles steps column p
    let q := q.toToken false
    let goesOn := q.column = column && !q.cursor.atEnd &&
      (q.startsWith '?' || (key? handles steps (column + 1) q).isSome)
    if goesOn then
      let (ms, r) ← mapping? handles steps column q
      some (member :: ms, r)
    else some ([member], q)

def member? (handles : Handles) :
    Nat → Nat → Place → Option ((Node × Node) × Place)
  | 0, _, _ => none
  | steps + 1, column, p => do
    if p.startsWith '?' then
      let (key, q) ← value? handles steps (column + 1) true .none (p.afterIndicator true)
      let q := q.toToken false
      if q.column = column && q.startsWith ':' then
        let (v, r) ← value? handles steps (column + 1) true .none (q.afterIndicator true)
        some ((key, v), r)
      else some ((key, .empty), q)
    else
      let (key, q) ← key? handles steps (column + 1) p
      let (v, r) ← value? handles steps (column + 1) true .none q
      some ((key, v), r)

end

/-- The directives from a place on, and the place after them. -/
def directives? : Nat → Directives → Cursor → Option (Directives × Cursor)
  | 0, _, _ => none
  | steps + 1, d, c => do
    let c := c.toToken false
    if c.column = 0 && c.rest.head? = some '%' then
      let line := c.rest.takeWhile (!isBreak ·)
      let d ← d.declare? line
      directives? steps d (c.skip line.length)
    else some (d, c)

/-- Whether nothing more than the ends of documents follows. -/
def isOver : Nat → Cursor → Bool
  | 0, _ => false
  | steps + 1, c =>
    let c := c.toToken false
    c.rest.isEmpty || (c.atDocumentEnd && isOver steps ((c.skip 3).keys false))

/-- The node of the only document of a text; a text without one has none. -/
def document? (cs : List Char) : Option (Option Node) := do
  let steps := 4 * cs.length + 4
  let c := (Cursor.start cs).toToken false
  if c.rest.isEmpty then some none
  else
    let (d, c) ← directives? steps .empty c
    let isExplicit := c.atDocumentStart
    let c ←
      if isExplicit then some ((c.skip 3).keys false)
      else if c.atDocumentEnd || d.versioned || !d.handles.isEmpty then none
      else some c
    let (n, p) ← value? d.allHandles steps 0 false .none ⟨c, []⟩
    if isOver steps p.cursor then some (some n) else none

/-- The node of the only document that a text holds, if it holds any. A mark of the byte order may
stand before it. -/
def parse? (text : String) : Option (Option Node) :=
  let cs := text.toList
  let cs := if cs.head? = some '\ufeff' then cs.drop 1 else cs
  if cs.all isAllowed then document? (unifyBreaks cs) else none

end BuildingModel.Yaml
