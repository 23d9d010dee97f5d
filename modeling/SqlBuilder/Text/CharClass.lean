import SqlBuilder.Text.CodePointClass

/-!
# Character classes

The classes of characters that decide how names and strings are written.  Below `0x80` each class
is given by a plain rule, and the tables of `SqlBuilder.Text.CodePointClass` take over from there.

* `isAlphanumeric`, `isNumeric`, `isUppercase` : the classes that name quoting asks about;
* `isHidden` : the characters a quoted form spells by their code point;
* the lemmas say that on ASCII each class is the familiar one.
-/

namespace SqlBuilder.Text

/-- A class that follows `ascii` below `0x80` and a table from there on. -/
def inClass (ascii : Char → Bool) (beyond : CodePointClass) (c : Char) : Bool :=
  if c.toNat < 0x80 then ascii c else beyond.contains c.toNat

/-- Letters and numbers of every script. -/
def isAlphanumeric : Char → Bool := inClass Char.isAlphanum alphanumericClass

/-- Numbers of every script, fractions and letter numbers included. -/
def isNumeric : Char → Bool := inClass Char.isDigit numericClass

/-- Upper-case letters of every script. -/
def isUppercase : Char → Bool := inClass Char.isUpper uppercaseClass

/-- Characters a quoted form spells by their code point. -/
def isHidden : Char → Bool :=
  inClass (fun c => decide (c.toNat < 0x20) || c.toNat == 0x7f) hiddenClass

/-! ### The classes on ASCII -/

theorem inClass_of_ascii {ascii : Char → Bool} {beyond : CodePointClass} {c : Char}
    (h : c.toNat < 0x80) : inClass ascii beyond c = ascii c := if_pos h

theorem isAlphanumeric_of_ascii {c : Char} (h : c.toNat < 0x80) :
    isAlphanumeric c = c.isAlphanum := inClass_of_ascii h

theorem isNumeric_of_ascii {c : Char} (h : c.toNat < 0x80) : isNumeric c = c.isDigit :=
  inClass_of_ascii h

theorem isUppercase_of_ascii {c : Char} (h : c.toNat < 0x80) : isUppercase c = c.isUpper :=
  inClass_of_ascii h

end SqlBuilder.Text
