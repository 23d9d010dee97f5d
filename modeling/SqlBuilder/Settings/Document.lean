import SqlBuilder.Error
import SqlBuilder.Operator
import SqlBuilder.Settings
import SqlBuilder.Toml.Reader

/-!
# Settings in documents

The settings are what the entry `render` of a TOML document says; whatever else the document holds
is passed over.

* `Settings.ofItem?` : the settings an item stands for;
* `Settings.ofToml`, `Settings.ofFile` : those of a text and of the bytes of a file.
-/

namespace SqlBuilder

open Toml

/-- The dialect of a name. -/
def Dialect.ofName? (s : String) : Option Dialect := SqlBuilder.ofName? all name s

/-- The dialect an item stands for: its name, or a table whose only key is the name and whose value
holds nothing. -/
def Dialect.ofItem? : Item → Option Dialect
  | .scalar (.string s) => ofName? s
  | .table _ [(k, i)] => if i.isEmpty then ofName? k else none
  | _ => none

namespace Settings

/-- Settings from the items that stand for them; what is not there is as by default. -/
def ofParts? (dialect quoteAll : Option Item) : Option Settings := do
  let d ← dialect.elim (some Settings.default.dialect) Dialect.ofItem?
  let q ← quoteAll.elim (some Settings.default.quoteAll) Item.boolean?
  return ⟨d, q⟩

/-- The settings an item stands for: a table by its keys, an array by its order.  A date or time has
none of the keys. -/
def ofItem? : Item → Option Settings
  | .table _ entries => ofParts? (entries.lookup "dialect") (entries.lookup "quote_all_identifiers")
  | .array items => ofParts? items[0]? items[1]?
  | .tables elements =>
    let items := elements.map (Item.table .header)
    ofParts? items[0]? items[1]?
  | .scalar (.moment _) => some .default
  | .scalar _ => none

/-- The settings of a document. -/
def ofEntries? (entries : Entries) : Option Settings :=
  (entries.lookup "render").elim (some .default) ofItem?

/-- The settings of a text. -/
def ofToml (s : String) : Except Error Settings :=
  match (Toml.parse? s).bind ofEntries? with
  | some settings => .ok settings
  | none => .error .settings

/-- The settings of a file.  There must be one, and it must be text. -/
def ofFile (content : Option ByteArray) : Except Error Settings :=
  match content.bind String.fromUTF8? with
  | some s => ofToml s
  | none => .error .unreadableFile

end Settings

end SqlBuilder
