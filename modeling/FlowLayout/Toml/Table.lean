import FlowLayout.Toml.Basic
/-!
# Assembling the tables of a document

A document is read as a stream of events: a key set to a value, or a header that opens a
table or appends to an array of tables. `Assembly` folds these events into the root table
under the rules of TOML:

* a key may be set once in a table;
* a dotted key creates tables on its way, and may go on through tables that dotted keys made,
  never through a value or a table that a header opened;
* a header creates implicit tables on its way, and may reopen a table only while it is
  implicit;
* a path that goes through an array of tables goes into its last table.

The table under the latest header is kept apart until the next header or the end of the
document, and is then put in its place; that is also when a table opened twice is noticed.
-/

namespace FlowLayout.Toml

/-- The item of a name in a table. -/
def Entries.item? (entries : Entries) (name : String) : Option Item :=
  (List.find? (fun (e : Key × Item) => e.1.name == name) entries).map (·.2)

/-- Replaces the item of a name, keeping its key and place. -/
def Entries.replace (entries : Entries) (name : String) (item : Item) : Entries :=
  entries.map fun (k, i) => if k.name == name then (k, item) else (k, i)

/-- Removes the entry of a name. -/
def Entries.remove (entries : Entries) (name : String) : Entries :=
  entries.filter (·.1.name != name)

/-- The names along a path. -/
def pathNames (path : List Key) : List String := path.map (·.name)

/-- Walks `path` down from a table whose shape is `shape`, and applies `f` to the table at its
end. Missing tables are created as implicit ones (and dotted, if `dotted`); a value on the way
is refused; an array of tables is entered at its last table; a dotted walk refuses to enter a
table that is not implicit. `walked` is the part of the path already behind. -/
def descend {α : Type} (dotted : Bool) (f : Entries → TableShape → Except Clash (Entries × α)) :
    List Key → List Key → Entries → TableShape → Except Clash (Entries × α)
  | _, [], entries, shape => f entries shape
  | walked, k :: rest, entries, _ =>
    let here := walked ++ [k]
    match entries.item? k.name with
    | none => do
      let shape : TableShape := ⟨true, dotted⟩
      let (sub, a) ← descend dotted f here rest [] shape
      pure (entries ++ [(k, .table sub shape none)], a)
    | some (.value v _) => throw (.extendWrongType (pathNames here) v.typeName)
    | some (.tables list) => do
      let last := list.getLast?.getD []
      let (sub, a) ← descend dotted f here rest last .explicit
      pure (entries.replace k.name (.tables (list.dropLast ++ [sub])), a)
    | some (.table sub shape span) => do
      if dotted && !shape.implicit then throw (.duplicateKey k.name none)
      let (sub', a) ← descend dotted f here rest sub shape
      pure (entries.replace k.name (.table sub' shape span), a)

/-- The clash of a header path whose last table is already defined. -/
def headerClash (parents : List Key) (last : Key) : Clash :=
  .duplicateKey last.raw (some (pathNames parents))

/-- The state of assembly: the root table, the table under the latest header (the root's own
entries before any header), and that header. -/
structure Assembly where
  root : Entries := []
  current : Entries := []
  shape : TableShape := .explicit
  span : Option Span := none
  header : List Key := []
  isArray : Bool := false

namespace Assembly

/-- Sets a key, reached from the current table by the dotted path `parents`, to a value. -/
def setKey (a : Assembly) (parents : List Key) (key : Key) (v : Value) (vspan : Span) :
    Except Clash Assembly := do
  let span := a.span.map fun s => ⟨s.start, vspan.stop⟩
  let (current, _) ← descend true (fun entries shape =>
      if shape.dotted == parents.isEmpty then throw (.duplicateKey key.name none)
      else match entries.item? key.name with
        | some _ => throw (.duplicateKey key.name (some (pathNames a.header)))
        | none => pure (entries ++ [(key, .value v vspan)], ()))
    [] parents a.current a.shape
  pure { a with current, span }

/-- Puts the current table in its place under the root. -/
def finish (a : Assembly) : Except Clash Assembly :=
  match a.header.getLast?, a.header.dropLast with
  | none, _ => pure { a with root := a.current, current := [] }
  | some last, parents => do
    let (root, _) ← descend false (fun entries _ =>
        match entries.item? last.name, a.isArray with
        | none, true => pure (entries ++ [(last, .tables [a.current])], ())
        | some (.tables list), true => pure (entries.replace last.name (.tables (list ++ [a.current])), ())
        | none, false => pure (entries ++ [(last, .table a.current a.shape a.span)], ())
        | some (.table _ shape _), false =>
          if shape.implicit then
            pure (entries.replace last.name (.table a.current a.shape a.span), ())
          else throw (headerClash parents last)
        | some _, _ => throw (headerClash parents last))
      [] parents a.root .explicit
    pure { a with root, current := [] }

/-- Opens the table of a `[header]`: an implicit table of that path is taken up again, any
other definition of it is a clash. -/
def openTable (a : Assembly) (path : List Key) (span : Span) : Except Clash Assembly := do
  let a ← a.finish
  match path.getLast? with
  | none => pure a
  | some last =>
    let parents := path.dropLast
    let (root, current) ← descend false (fun entries _ =>
        match entries.item? last.name with
        | none => pure (entries, [])
        | some (.table t shape _) =>
          if shape.implicit && !shape.dotted then pure (entries.remove last.name, t)
          else throw (headerClash parents last)
        | some _ => throw (headerClash parents last))
      [] parents a.root .explicit
    pure { root, current, shape := .explicit, span := some span, header := path,
           isArray := false }

/-- Opens a new table at the end of the array of tables of a `[[header]]`. -/
def openArrayTable (a : Assembly) (path : List Key) (span : Span) : Except Clash Assembly := do
  let a ← a.finish
  match path.getLast? with
  | none => pure a
  | some last =>
    let parents := path.dropLast
    let (root, _) ← descend false (fun entries _ =>
        match entries.item? last.name with
        | none => pure (entries ++ [(last, .tables [])], ())
        | some (.tables _) => pure (entries, ())
        | some _ => throw (headerClash parents last))
      [] parents a.root .explicit
    pure { root, current := [], shape := .explicit, span := some span, header := path,
           isArray := true }

end Assembly

/-- One step of reading a document, at the byte offset where it starts. -/
inductive Event where
  | keyval (start : Nat) (parents : List Key) (key : Key) (value : Value) (span : Span)
  | header (start : Nat) (path : List Key) (span : Span) (isArray : Bool)

/-- Applies an event to an assembly. -/
def Assembly.apply (a : Assembly) : Event → Except Clash Assembly
  | .keyval _ parents key v span => a.setKey parents key v span
  | .header _ path span false => a.openTable path span
  | .header _ path span true => a.openArrayTable path span

end FlowLayout.Toml
