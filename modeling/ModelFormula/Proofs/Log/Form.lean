import ModelFormula.Log.Format
import ModelFormula.Settings

/-!
# When a record has a line

A form that passes the check may still have no line for a record: it is read only when a line is made,
and then every directive must find a value that can be written as it says.

* `Conversion.accepts` — the values that a conversion can write.
* `Form.isNamed` — whether all directives of a form have names.
* `Form.suits` — whether each of them finds a value that its conversion accepts.
* `Form.isDated_of_parseFrom?` — a directive for the date makes the record hold the date.
* `Form.isSome_line?` — a record has a line in such a form exactly if the form suits it.
-/

set_option autoImplicit false

namespace ModelFormula

/-! ## Values -/

namespace Conversion

/-- Whether a value can be written: any value as a text, a character or its code as a character, a
whole number or a finite double as a decimal, a whole number to another base, and a number as a
double. -/
def accepts (precision : Option Nat) (a : Attribute) : Conversion → Bool
  | .text => true
  | .quoted => true
  | .ascii => true
  | .character => a.character?.isSome
  | .decimal => a.integer?.isSome && decide (precision.getD 0 ≤ mostDigits)
  | .octal => a.whole?.isSome && decide (precision.getD 0 ≤ mostDigits)
  | .hexadecimal _ => a.whole?.isSome && decide (precision.getD 0 ≤ mostDigits)
  | .exponential _ => a.double?.isSome
  | .fixed _ => a.double?.isSome
  | .general _ => a.double?.isSome

theorem isSome_writeInt? (f : Flags) (width : Nat) (precision : Option Nat) (base : Nat)
    (mark : List Char) (capital : Bool) (n? : Option Int) :
    (writeInt? f width precision base mark capital n?).isSome =
      (n?.isSome && decide (precision.getD 0 ≤ mostDigits)) := by
  unfold writeInt?
  split <;> simp [*]

theorem isSome_write? (f : Flags) (width : Nat) (precision : Option Nat) (a : Attribute)
    (c : Conversion) : (c.write? f width precision a).isSome = c.accepts precision a := by
  cases c <;> simp only [write?, accepts, writeDouble?, isSome_writeInt?, Option.isSome_map,
    Option.isSome_some]

end Conversion

namespace Form

/-- Whether a part of a form is text or a directive with a name. -/
def Segment.isNamed : Segment → Bool
  | .text _ => true
  | .directive d => d.key.isSome

/-- Whether a part of a form is text, or names an attribute whose value can be written as it is asked
for. -/
def Segment.suits (attributes : Dictionary String Attribute) : Segment → Bool
  | .text _ => true
  | .directive d => d.key.any fun name =>
      (attributes.get? name).any fun a => d.conversion.accepts d.precision a

/-- A directive with a name has a text exactly if it suits. -/
theorem isSome_directive_fill? {d : Directive} (named : d.key.isSome = true) (v : Values) :
    (d.fill? v).isSome = Segment.suits v.named (.directive d) := by
  obtain ⟨name, key⟩ := Option.isSome_iff_exists.1 named
  simp only [Directive.fill?, Directive.value?, Segment.suits, key, Option.any_some]
  cases v.named.get? name with
  | none => rfl
  | some a => exact Conversion.isSome_write? _ _ _ a _

/-- Directives with names are filled independently of each other. -/
theorem isSome_fill? {segments : List Segment} (named : segments.all Segment.isNamed = true)
    (v : Values) : (fill? v segments).isSome = segments.all (Segment.suits v.named) := by
  induction segments generalizing v with
  | nil => rfl
  | cons segment rest ih =>
    rw [List.all_cons, Bool.and_eq_true] at named
    rw [List.all_cons]
    cases segment with
    | text c =>
      rw [fill?, Option.isSome_map, ih named.2]
      rfl
    | directive d =>
      have later := ih named.2 { v with whole := none }
      rw [← isSome_directive_fill? named.1 v, ← later, fill?]
      cases d.fill? v <;> cases fill? { v with whole := none } rest <;> rfl

/-! ## The date -/

/-- A name is followed by its closing parenthesis. -/
theorem takeKey_spec {depth : Nat} {cs : List Char} {found : List Char × List Char}
    (taken : takeKey depth cs = some found) : cs = found.1 ++ ')' :: found.2 := by
  fun_induction takeKey depth cs generalizing found with
  | case1 => cases taken
  | case2 =>
    obtain rfl := Option.some.inj taken
    rfl
  | case3 _ _ ih =>
    obtain ⟨inner, read, rfl⟩ := Option.map_eq_some_iff.1 taken
    exact congrArg (')' :: ·) (ih read)
  | case4 _ _ ih =>
    obtain ⟨inner, read, rfl⟩ := Option.map_eq_some_iff.1 taken
    exact congrArg ('(' :: ·) (ih read)
  | case5 _ c _ _ _ _ ih =>
    obtain ⟨inner, read, rfl⟩ := Option.map_eq_some_iff.1 taken
    exact congrArg (c :: ·) (ih read)

theorem key?_spec {cs rest : List Char} {name : String}
    (taken : key? cs = some (some name, rest)) : cs = '(' :: (name.toList ++ ')' :: rest) := by
  unfold key? at taken
  split at taken
  · obtain ⟨found, closed, same⟩ := Option.map_eq_some_iff.1 taken
    obtain ⟨named, rfl⟩ := Prod.mk.inj same
    obtain rfl := Option.some.inj named
    rw [String.toList_ofList, ← takeKey_spec closed]
  · cases taken

/-- A directive with a name begins with that name in parentheses. -/
theorem directive?_named {cs rest : List Char} {d : Directive} {name : String}
    (parsed : directive? cs = some (d, rest)) (key : d.key = some name) :
    ∃ more, cs = '(' :: (name.toList ++ ')' :: more) := by
  simp only [directive?, Option.bind_eq_bind, Option.bind_eq_some_iff] at parsed
  obtain ⟨⟨key', more⟩, taken, ⟨_, _⟩, -, ⟨_, _⟩, -, read⟩ := parsed
  have same : d.key = key' := by
    split at read
    · obtain ⟨_, -, same⟩ := Option.map_eq_some_iff.1 read
      rw [← (Prod.mk.inj same).1]
    · cases read
  exact ⟨more, key?_spec (taken.trans (by rw [← same, key]))⟩

/-- A form that has a directive for the date asks for it. -/
theorem isDated_of_parseFrom? {skipped : Nat} {cs : List Char} {segments : List Segment}
    {d : Directive} (parsed : parseFrom? skipped cs = some segments)
    (mem : .directive d ∈ segments) (key : d.key = some "asctime") : isDated cs = true := by
  -- what stands before a text with the date does not matter
  have before : ∀ {cs : List Char} (c : Char), isDated cs = true → isDated (c :: cs) = true :=
    fun c h => by rw [isDated, h, Bool.or_true]
  fun_induction parseFrom? skipped cs generalizing segments with
  | case1 =>
    obtain rfl := Option.some.inj parsed
    cases mem
  | case2 skipped c cs ih => exact before c (ih parsed mem)
  | case3 cs ih =>
    obtain ⟨more, read, rfl⟩ := Option.map_eq_some_iff.1 parsed
    exact before _ (before _ (ih read (List.mem_of_ne_of_mem Segment.noConfusion mem)))
  | case4 cs not_double d' rest found ih =>
    obtain ⟨more, read, rfl⟩ := Option.map_eq_some_iff.1 parsed
    rcases List.mem_cons.1 mem with same | mem
    · obtain rfl := Segment.directive.inj same
      obtain ⟨text, rfl⟩ := directive?_named found key
      rfl
    · exact before _ (ih read mem)
  | case5 => cases parsed
  | case6 c cs not_double not_percent ih =>
    obtain ⟨more, read, rfl⟩ := Option.map_eq_some_iff.1 parsed
    exact before _ (ih read (List.mem_of_ne_of_mem Segment.noConfusion mem))

/-! ## Lines -/

/-- Whether every directive of a form has a name. -/
def isNamed (form : String) : Bool := (parse? form).all (·.all Segment.isNamed)

/-- Whether a form can be read, and each of its directives names an attribute of a record whose value
can be written as it is asked for. -/
def suits (form : String) (r : Record) : Bool :=
  (parse? form).any (·.all (Segment.suits (r.attributes true)))

/-- Whether a record holds the date makes no difference to its other attributes. -/
theorem get?_attributes (r : Record) {dated : Bool} {name : String}
    (h : name = "asctime" → dated = true) :
    (r.attributes dated).get? name = (r.attributes true).get? name := by
  cases dated with
  | true => rfl
  | false =>
    have other : name ≠ "asctime" := fun same => Bool.noConfusion (h same)
    simp only [Record.attributes, Dictionary.get?_append]
    simp [Dictionary.get?_cons, Ne.symm other]

/-- What a form asks of the record that it is filled with does not depend on the date. -/
theorem suits_valuesOf {form : String} {segments : List Segment}
    (parsed : parse? form = some segments) (r : Record) :
    segments.all (Segment.suits (valuesOf form r).named) =
      segments.all (Segment.suits (r.attributes true)) := by
  rw [Bool.eq_iff_iff, List.all_eq_true, List.all_eq_true]
  refine forall₂_congr fun segment mem => ?_
  cases segment with
  | text c => rfl
  | directive d =>
    cases key : d.key with
    | none => simp [Segment.suits, key]
    | some name =>
      have same : (valuesOf form r).named.get? name = (r.attributes true).get? name :=
        get?_attributes r fun date =>
          isDated_of_parseFrom? parsed mem (key.trans (congrArg some date))
      simp only [Segment.suits, key, Option.any_some, same]

/-- **A record has a line** in a form whose directives have names exactly if the form suits it. -/
theorem isSome_line? {form : String} (named : isNamed form = true) (r : Record) :
    (line? form r).isSome = suits form r := by
  unfold isNamed at named
  unfold line? suits
  cases parsed : parse? form with
  | none => rfl
  | some segments =>
    rw [parsed, Option.all_some] at named
    rw [Option.bind_some, Option.isSome_map, isSome_fill? named, suits_valuesOf parsed,
      Option.any_some]

/-- The default form suits every record. -/
example (r : Record) : suits ({} : LoggingSettings).format r = true := by rfl

end Form

end ModelFormula
