import ScriptGuard.Toml.Scalar

/-!
# Tables under construction

While a document is read its tables are kept as a tree that remembers how each table came into
being, because that decides what may still be added to it:

* a table opened by its own header is `opened` and cannot be opened again;
* a table that a longer header passed through is `implied` and may be opened once;
* a table made by a dotted key is `dotted`: other dotted keys may add to it, a header may not open it;
* a value, also an array or a table in braces, is closed.
-/

namespace ScriptGuard.Toml

/-- how a table came into being -/
inductive Origin where
  | opened
  | implied
  | dotted
deriving DecidableEq, Repr

/-- a table under construction, a list of tables, or a finished value -/
inductive Node where
  | leaf (v : Value)
  | table (origin : Origin) (entries : List (String × Node))
  | tables (items : List (List (String × Node)))

/-- the entries of a table under construction -/
abbrev Entries := List (String × Node)

def Entries.find? (es : Entries) (key : String) : Option Node :=
  (List.find? (fun e => e.1 = key) es).map (·.2)

/-- the entries with the node of a key replaced, or added at the end -/
def Entries.put : Entries → String → Node → Entries
  | [], key, n => [(key, n)]
  | e :: es, key, n => if e.1 = key then (key, n) :: es else e :: Entries.put es key n

/-- changes the table at the end of the way that a header takes, and makes the missing tables on
the way; at a list of tables the way goes on in its last one -/
def Entries.along? (origin : Origin) (change : Entries → Option Entries) :
    List String → Entries → Option Entries
  | [], es => change es
  | key :: way, es =>
    match es.find? key with
    | none => (Entries.along? origin change way []).map fun sub => es.put key (.table origin sub)
    | some (.table o sub) =>
      if origin = .dotted ∧ o = .opened then none
      else (Entries.along? origin change way sub).map fun sub => es.put key (.table o sub)
    | some (.tables items) =>
      if origin = .dotted then none
      else
        match items.getLast? with
        | none => none
        | some sub =>
          (Entries.along? origin change way sub).map fun sub =>
            es.put key (.tables (items.dropLast ++ [sub]))
    | some (.leaf _) => none

/-- a value put under a dotted key -/
def Entries.assign? (es : Entries) (way : List String) (key : String) (v : Value) :
    Option Entries :=
  es.along? .dotted
    (fun sub =>
      match sub.find? key with
      | none => some (sub.put key (.leaf v))
      | some _ => none)
    way

/-- the table of a header opened -/
def Entries.open? (es : Entries) (way : List String) (key : String) : Option Entries :=
  es.along? .implied
    (fun sub =>
      match sub.find? key with
      | none => some (sub.put key (.table .opened []))
      | some (.table .implied inner) => some (sub.put key (.table .opened inner))
      | some _ => none)
    way

/-- one more table in the list of a header -/
def Entries.push? (es : Entries) (way : List String) (key : String) : Option Entries :=
  es.along? .implied
    (fun sub =>
      match sub.find? key with
      | none => some (sub.put key (.tables [[]]))
      | some (.tables items) => some (sub.put key (.tables (items ++ [[]])))
      | some _ => none)
    way

/-- a value put into the table that a header opened -/
def Entries.within? (es : Entries) (header : List String) (way : List String) (key : String)
    (v : Value) : Option Entries :=
  es.along? .implied (fun sub => sub.assign? way key v) header

mutual

/-- the finished value of a node -/
def Node.value : Node → Value
  | .leaf v => v
  | .table _ es => .table (entriesValue es)
  | .tables items => .array (tablesValue items)

/-- the finished values of the entries of a table -/
def entriesValue : List (String × Node) → List (String × Value)
  | [] => []
  | (key, n) :: es => (key, n.value) :: entriesValue es

/-- the finished values of a list of tables -/
def tablesValue : List (List (String × Node)) → List Value
  | [] => []
  | es :: items => .table (entriesValue es) :: tablesValue items

end

end ScriptGuard.Toml
