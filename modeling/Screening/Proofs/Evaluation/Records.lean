import Screening.Proofs.Amount
import Screening.Proofs.Directory
import Screening.Proofs.Evaluation.Misfit
import Screening.Proofs.Evaluation.Missing
import Screening.Proofs.Value
import Screening.Transaction

/-!
# Records and what is written of them

The facts of a transaction and its user can be made of the records or of the JSON that is written of
the records. The two ways give every attribute alike values (`Value.Alike`): they are the same
number for every comparison, and unless the attribute is the amount they are the same text. The
amount is written with all its decimals as a text, while the record gives it as a number, so that a
comparison with a text can tell the two apart (`Comparison.TellsApart`), and nothing else can
(`Condition.holds_of_records`).
-/

namespace Screening

/-! ## Alike values -/

/-- `v.Alike name w` says that two values of the attribute `name` are the same number for every
comparison and have the same members, and that they are the same text unless the attribute is the
amount. -/
structure Value.Alike (name : String) (v w : Value) : Prop where
  key_eq : v.asNumber?.map Binary64.key = w.asNumber?.map Binary64.key
  text_eq : name ≠ "amount" → v.asText? = w.asText?
  member?_eq : ∀ sub, v.member? sub = w.member? sub

theorem Value.Alike.refl (name : String) (v : Value) : v.Alike name v :=
  ⟨rfl, fun _ => rfl, fun _ => rfl⟩

/-! ## The records -/

theorem Value.ofJson_ofText? (s : Option String) : ofJson (.ofText? s) = ofText? s := by
  cases s <;> rfl

theorem Value.ofJson_ofFinite? (x : Option Binary64.Finite) :
    ofJson ((x.map .float).getD .null) = ofFinite? x := by
  cases x <;> rfl

/-- Any count of 32 bits fits 64 bits with a sign. -/
theorem Value.ofInt_toNat (n : UInt32) : ofInt n.toNat = integer n.toUInt64.toInt64 := by
  have hlt : n.toNat < 0x100000000 := n.toNat_lt
  have hint : (Int64.ofInt n.toNat).toInt = n.toUInt64.toInt64.toInt := by
    rw [Int64.toInt_ofInt_of_le (by omega) (by omega)]
    refine (BitVec.toInt_eq_toNat_of_lt (x := n.toUInt64.toBitVec) ?_).symm
    show 2 * n.toNat < _
    omega
  rw [ofInt, if_pos (by omega), Int64.toInt_inj.1 hint]

theorem Value.ofJson_age (age : Option UInt32) :
    ofJson ((age.map fun age => .ofNat age.toNat).getD .null) =
      (age.map fun age => integer age.toUInt64.toInt64).getD .null := by
  cases age with
  | none => rfl
  | some age => exact ofInt_toNat age

/-- A user is the same value in both. -/
theorem User.toValue_eq_ofJson (u : User) : u.toValue = .ofJson u.toJson := by
  rw [toValue, toJson, Value.ofJson, Value.ofJsonMembers, Value.ofJsonMembers, Value.ofJsonMembers,
    Value.ofJson_age, Value.ofJson_ofText?]

/-- A location is the same value in both, and so is a missing one. -/
theorem Location.toValue_eq_ofJson (l : Option Location) :
    (l.map toValue).getD .null = .ofJson ((l.map toJson).getD .null) := by
  cases l with
  | none => rfl
  | some l =>
    simp only [Option.map_some, Option.getD_some, toValue, toJson, Value.ofJson,
      Value.ofJsonMembers, Value.ofJson_ofText?, Value.ofJson_ofFinite?]

/-- An amount is the same number in both. -/
theorem Amount.alike {a : Amount} (h : a.integer? = none → a.toFloat = a.nearest) :
    a.toValue.Alike "amount" (.text (String.ofList a.render)) where
  key_eq := by
    obtain ⟨x, hx, hkey⟩ := exists_asNumber?_toValue h
    rw [hx, asNumber?_text_render, Option.map_some, Option.map_some, hkey]
  text_eq hne := absurd rfl hne
  member?_eq sub := by
    rw [toValue]
    split
    · rw [Value.ofInt]
      split <;> rfl
    · rfl

/-- A transaction has the same members in both, except for the amount. -/
theorem Transaction.exists_member?_eq (t : Transaction) : ∃ others : List (String × Value),
    ∀ name, t.toValue.member? name = (("amount", t.amount.toValue) :: others).lookup name ∧
      (Value.ofJson t.toJson).member? name =
        (("amount", .text (String.ofList t.amount.render)) :: others).lookup name := by
  let others : List (String × Value) := [("currency", .text t.currency),
    ("merchantId", Value.ofText? t.merchantId),
    ("merchantCategoryCode", Value.ofText? t.merchantCategoryCode),
    ("ipAddress", Value.ofText? t.ipAddress), ("deviceId", Value.ofText? t.deviceId),
    ("channel", Value.ofText? (t.channel.map Channel.label)),
    ("location", (t.location.map Location.toValue).getD .null)]
  have hwritten : Value.ofJson t.toJson =
      .ofMembers (("amount", .text (String.ofList t.amount.render)) :: others) := by
    simp only [toJson, Value.ofJson, Value.ofJsonMembers, Value.ofJson_ofText?,
      ← Location.toValue_eq_ofJson, others]
  refine ⟨others, fun name => ⟨Directory.find?_ofList (by simp) name, ?_⟩⟩
  rw [hwritten]
  exact Directory.find?_ofList (by simp [others]) name

/-- The attributes of a transaction are alike in both. -/
theorem Transaction.alike {t : Transaction}
    (h : t.amount.integer? = none → t.amount.toFloat = t.amount.nearest) (name : String) :
    Option.Rel (Value.Alike name) (t.toValue.member? name)
      ((Value.ofJson t.toJson).member? name) := by
  obtain ⟨others, hothers⟩ := t.exists_member?_eq
  obtain ⟨hmember, hwritten⟩ := hothers name
  rw [hmember, hwritten, Directory.lookup_cons, Directory.lookup_cons]
  split
  · next hname => exact hname ▸ .some (Amount.alike h)
  · cases others.lookup name with
    | none => exact .none
    | some v => exact .some (.refl name v)

/-! ## The facts -/

/-- What is made of the value of a field, if nothing is made of a null, is made of what stands at
its route. -/
theorem Facts.bind_resolve {β : Type} {f : Value → Option β} (hnull : f .null = none)
    (facts : Facts) (name : String) :
    (facts.resolve name).bind f = (facts.follow (.ofName name)).bind f := by
  rw [resolve]
  cases facts.follow (.ofName name) with
  | none => rfl
  | some v =>
    cases v with
    | null => exact hnull.symm
    | boolean | float | integer | text | list | object => rfl

section
variable {t : Transaction} {u : User} {name : String}

theorem bind_eq_of_rel {α β : Type} {R : α → α → Prop} {o o' : Option α} {f : α → Option β}
    (h : Option.Rel R o o') (hf : ∀ a b, R a b → f a = f b) : o.bind f = o'.bind f := by
  cases h with
  | some hrel => exact hf _ _ hrel
  | none => rfl

/-- What is made alike of alike values is made of the value of a field in both. -/
theorem Facts.bind_resolve_ofRecords {β : Type} {f : Value → Option β}
    (hamount : t.amount.integer? = none → t.amount.toFloat = t.amount.nearest)
    (hnull : f .null = none) (hf : ∀ v w : Value, v.Alike name w → f v = f w) :
    ((Facts.ofRecords t u).resolve name).bind f =
      ((Facts.ofJson t.toJson u.toJson).resolve name).bind f := by
  rw [bind_resolve hnull, bind_resolve hnull]
  match hroute : Route.ofName name with
  | .user key => exact congrArg (fun v => (v.member? key).bind f) u.toValue_eq_ofJson
  | .attribute key =>
    obtain rfl := Route.eq_of_ofName_eq_attribute hroute
    exact bind_eq_of_rel (Transaction.alike hamount key) hf
  | .member key sub =>
    have hmember := bind_eq_of_rel (Transaction.alike hamount key) fun _ _ h => h.member?_eq sub
    exact congrArg (Option.bind · f) hmember

/-- A field is the same number in both. -/
theorem Facts.key_resolve_ofRecords
    (hamount : t.amount.integer? = none → t.amount.toFloat = t.amount.nearest) (name : String) :
    (((Facts.ofRecords t u).resolve name).bind Value.asNumber?).map Binary64.key =
      (((Facts.ofJson t.toJson u.toJson).resolve name).bind Value.asNumber?).map Binary64.key := by
  rw [Option.map_bind, Option.map_bind]
  exact bind_resolve_ofRecords hamount rfl fun _ _ h => h.key_eq

/-- A field other than the amount is the same text in both. -/
theorem Facts.asText?_resolve_ofRecords
    (hamount : t.amount.integer? = none → t.amount.toFloat = t.amount.nearest)
    (hname : name ≠ "amount") :
    ((Facts.ofRecords t u).resolve name).bind Value.asText? =
      ((Facts.ofJson t.toJson u.toJson).resolve name).bind Value.asText? :=
  bind_resolve_ofRecords hamount rfl fun _ _ h => h.text_eq hname

end

/-! ## Comparisons -/

/-- Whether a relation holds between numbers depends on their places in the order. -/
theorem Relation.holds_of_key_eq {x x' : Binary64} (h : x.key = x'.key) (r : Relation)
    (y : Binary64) : r.holds x y = r.holds x' y := by
  cases r <;> simp only [holds, Binary64.equal, Binary64.less, Binary64.atMost, h]

namespace Comparison

variable {catalog : Catalog} {facts facts' : Facts} {r : Relation} {name : String}
  {n m position : Nat}

/-- Fields are not compared with each other. -/
theorem holds_fields_eq {name' : String} :
    holds catalog facts ⟨r, .field name n, .field name' m, position⟩ = false :=
  rfl

/-- A comparison with a number depends on the place of the field's number in the order. -/
theorem holds_number_congr {x : Binary64.Finite}
    (h : ((facts.resolve name).bind Value.asNumber?).map Binary64.key =
      ((facts'.resolve name).bind Value.asNumber?).map Binary64.key) :
    holds catalog facts ⟨r, .field name n, .literal (.number x) m, position⟩ =
      holds catalog facts' ⟨r, .field name n, .literal (.number x) m, position⟩ := by
  rw [holds_number_eq, holds_number_eq]
  generalize (facts.resolve name).bind Value.asNumber? = y at h ⊢
  generalize (facts'.resolve name).bind Value.asNumber? = y' at h ⊢
  cases y with
  | none =>
    cases y' with
    | none => rfl
    | some => cases h
  | some y =>
    cases y' with
    | none => cases h
    | some y' =>
      have hkey : y.key = y'.key := Option.some.inj h
      rw [Option.any_some, Option.any_some, Relation.holds_of_key_eq hkey]

/-! ## The amount as a text -/

/-- `c.TellsApart catalog a` says that the comparison `c` asks whether the amount is a given text,
or whether it is not, and that of the attribute value of the amount `a` and what is written of `a`
exactly one is that text. -/
inductive TellsApart (catalog : Catalog) (a : Amount) : Comparison → Prop where
  | intro {r : Relation} {s : String} {n m position : Nat}
      (hknown : catalog.contains "amount" = true) (horder : r.isOrdering = false)
      (hdiffer : ¬ (a.toValue.asText? = some s ↔ String.ofList a.render = s)) :
      TellsApart catalog a ⟨r, .field "amount" n, .literal (.text s) m, position⟩

theorem TellsApart.subject? {a : Amount} {c : Comparison} (h : c.TellsApart catalog a) :
    c.subject? = some "amount" := by
  cases h
  rfl

variable {t : Transaction} {u : User}

theorem asText?_amount_ofRecords :
    ((Facts.ofRecords t u).resolve "amount").bind Value.asText? = t.amount.toValue.asText? := by
  obtain ⟨others, hothers⟩ := t.exists_member?_eq
  rw [Facts.bind_resolve rfl]
  exact congrArg (Option.bind · Value.asText?) (hothers "amount").1

theorem asText?_amount_ofJson :
    ((Facts.ofJson t.toJson u.toJson).resolve "amount").bind Value.asText? =
      some (String.ofList t.amount.render) := by
  obtain ⟨others, hothers⟩ := t.exists_member?_eq
  rw [Facts.bind_resolve rfl]
  exact congrArg (Option.bind · Value.asText?) (hothers "amount").2

/-- Comparing the amount with a text, the two ways agree exactly if the comparison does not tell
them apart. -/
theorem holds_amount_eq_iff {s : String} :
    holds catalog (.ofRecords t u) ⟨r, .field "amount" n, .literal (.text s) m, position⟩ =
        holds catalog (.ofJson t.toJson u.toJson)
          ⟨r, .field "amount" n, .literal (.text s) m, position⟩ ↔
      ¬ TellsApart catalog t.amount ⟨r, .field "amount" n, .literal (.text s) m, position⟩ := by
  obtain ⟨shown, hshown⟩ := t.amount.exists_asText?_toValue
  rw [holds_text_eq, holds_text_eq, asText?_amount_ofRecords, asText?_amount_ofJson, hshown,
    Option.any_some, Option.any_some]
  have htells : TellsApart catalog t.amount ⟨r, .field "amount" n, .literal (.text s) m, position⟩ ↔
      catalog.contains "amount" = true ∧ r.isOrdering = false ∧
        ¬ (shown = s ↔ String.ofList t.amount.render = s) := by
    constructor
    · rintro ⟨hknown, horder, hdiffer⟩
      rw [hshown, Option.some_inj] at hdiffer
      exact ⟨hknown, horder, hdiffer⟩
    · rintro ⟨hknown, horder, hdiffer⟩
      refine .intro hknown horder ?_
      rwa [hshown, Option.some_inj]
  rw [htells]
  cases hknown : catalog.contains "amount" with
  | false => simp
  | true =>
    cases r with
    | equal | notEqual =>
      by_cases hs : shown = s <;> by_cases hr : String.ofList t.amount.render = s <;>
        simp [Relation.holdsText, Relation.isOrdering, bne, hs, hr]
    | less | greater | atMost | atLeast => simp [Relation.holdsText, Relation.isOrdering]

/-- The two ways agree about a comparison exactly if it does not tell them apart. -/
theorem holds_ofRecords_eq_iff (c : Comparison)
    (hamount : t.amount.integer? = none → t.amount.toFloat = t.amount.nearest) :
    c.holds catalog (.ofRecords t u) = c.holds catalog (.ofJson t.toJson u.toJson) ↔
      ¬ c.TellsApart catalog t.amount := by
  obtain ⟨r, left, right, position⟩ := c
  cases left with
  | literal => exact iff_of_true (holds_congr nofun) nofun
  | field name n =>
    cases right with
    | field => exact iff_of_true (holds_fields_eq.trans holds_fields_eq.symm) nofun
    | literal value m =>
      cases value with
      | number x =>
        exact iff_of_true (holds_number_congr (Facts.key_resolve_ofRecords hamount name)) nofun
      | text s =>
        by_cases hname : name = "amount"
        · subst hname
          exact holds_amount_eq_iff
        · refine iff_of_true ?_ fun h => ?_
          · rw [holds_text_eq, holds_text_eq, Facts.asText?_resolve_ofRecords hamount hname]
          · cases h
            exact hname rfl

end Comparison

/-! ## Conditions -/

/-- **Records and what is written of them state the same facts, except for the amount as a text.**
If the number that is made of an amount that is not whole is the nearest one, a condition holds of
the records exactly if it holds of the JSON that is written of them, unless one of its comparisons
tells the two apart; and such a comparison has two different answers. -/
theorem Condition.holds_of_records (catalog : Catalog) (t : Transaction) (u : User)
    (hamount : t.amount.integer? = none → t.amount.toFloat = t.amount.nearest) :
    (∀ c : Condition, (∀ d ∈ c.comparisons, ¬ d.TellsApart catalog t.amount) →
      c.holds catalog (.ofRecords t u) = c.holds catalog (.ofJson t.toJson u.toJson)) ∧
    ∀ d : Comparison, d.TellsApart catalog t.amount ↔
      d.holds catalog (.ofRecords t u) ≠ d.holds catalog (.ofJson t.toJson u.toJson) := by
  have hagree : ∀ d : Comparison,
      d.holds catalog (.ofRecords t u) = d.holds catalog (.ofJson t.toJson u.toJson) ↔
        ¬ d.TellsApart catalog t.amount :=
    fun d => d.holds_ofRecords_eq_iff hamount
  refine ⟨fun c hc => ?_, fun d => ?_⟩
  · exact holds_congr fun d hd => (hagree d).2 (hc d hd)
  · rw [Ne, hagree d, not_not]

/-- An amount with decimals, and a text that the amount is not compared with. -/
theorem Condition.holds_of_records_decimals :
    let t : Transaction := ⟨⟨false, 1250075, 2, by decide, by decide⟩, "RUB", none, none, none,
      none, some .mobile, some ⟨"RU", some "Kazan", none, none⟩⟩
    let u : User := ⟨some 30, none⟩
    ∃ c, Schema.standard.compile
        "amount > 12500 and location.city = 'Kazan' and user.age >= 18" = .ok c ∧
      t.amount.toFloat = t.amount.nearest ∧
      c.holds Catalog.standard (.ofRecords t u) = true ∧
      c.holds Catalog.standard (.ofJson t.toJson u.toJson) = true := by
  intro t u
  obtain ⟨c, hc⟩ : ∃ c : Condition, c = .and (.and
      (.compare ⟨.greater, .field "amount" 0,
        .literal (.number ⟨false, 0x40C86A0000000000, by decide⟩) 9, 7⟩)
      (.compare ⟨.equal, .field "location.city" 19, .literal (.text "Kazan") 35, 33⟩) 15)
      (.compare ⟨.atLeast, .field "user.age" 47,
        .literal (.number ⟨false, 0x4032000000000000, by decide⟩) 59, 56⟩) 43 := ⟨_, rfl⟩
  have hcompile : Schema.standard.compile
      "amount > 12500 and location.city = 'Kazan' and user.age >= 18" = .ok c :=
    eq_ok_of_toOption (by rw [hc]; decide +kernel)
  have hnearest : t.amount.toFloat = t.amount.nearest := by decide +kernel
  have hholds : c.holds Catalog.standard (.ofRecords t u) = true := by
    rw [hc]
    decide +kernel
  have hagree := (holds_of_records Catalog.standard t u fun _ => hnearest).1 c ?_
  · exact ⟨c, hcompile, hnearest, hholds, hagree ▸ hholds⟩
  · rw [hc]
    exact List.forall_mem_cons.2 ⟨nofun, List.forall_mem_cons.2
      ⟨fun h => absurd h.subject? (by decide), List.forall_mem_singleton.2 fun h =>
        absurd h.subject? (by decide)⟩⟩

/-- A whole amount that is written with decimals, and a comparison with the text of the integer: the
records and what is written of them give different answers. -/
theorem Condition.holds_of_records_ne :
    let t : Transaction :=
      ⟨⟨false, 1500000, 2, by decide, by decide⟩, "EUR", none, none, none, none, none, none⟩
    let u : User := ⟨none, none⟩
    ∃ c, Schema.standard.compile "amount = '15000'" = .ok c ∧ t.amount.integer? = some 15000 ∧
      c.holds Catalog.standard (.ofRecords t u) = true ∧
      c.holds Catalog.standard (.ofJson t.toJson u.toJson) = false := by
  refine ⟨.compare ⟨.equal, .field "amount" 0, .literal (.text "15000") 9, 7⟩,
    eq_ok_of_toOption (by decide +kernel), ?_, ?_, ?_⟩
  · rfl
  · decide +kernel
  · decide +kernel

end Screening
