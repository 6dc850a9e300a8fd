import QueryJournal.Json.Reader
import QueryJournal.Proofs.Json.Token

namespace QueryJournal.Json

open QueryJournal.Document

/-!
Parsing undoes rendering. The reader turns the tokens of a value back into the value wherever a
value may stand, so containers need no more than what holds of their parts.
-/

mutual

/-- Nothing in the value stands for what cannot be read, so the value has a text of its own. -/
def Plain : Value → Prop
  | .unread => False
  | .list items => PlainItems items
  | .table members => PlainMembers members
  | _ => True

def PlainItems : List Value → Prop
  | [] => True
  | item :: items => Plain item ∧ PlainItems items

def PlainMembers : List (String × Value) → Prop
  | [] => True
  | (_, value) :: members => Plain value ∧ PlainMembers members

end

theorem plainItems_iff {items : List Value} : PlainItems items ↔ ∀ item ∈ items, Plain item := by
  induction items with
  | nil => simp [PlainItems]
  | cons item items ih => simp [PlainItems, ih]

theorem plainMembers_iff {members : List (String × Value)} :
    PlainMembers members ↔ ∀ member ∈ members, Plain member.2 := by
  induction members with
  | nil => simp [PlainMembers]
  | cons member members ih => simp [PlainMembers, ih]

namespace Reader

theorem foldlM_cons_some {reader next : Reader} {token : Token} (tokens : List Token)
    (stepped : reader.step token = some next) :
    (token :: tokens).foldlM step reader = tokens.foldlM step next := by
  rw [List.foldlM_cons, stepped]
  rfl

theorem tableOf_named (members : List (String × Value)) :
    tableOf (members.map fun member => (some member.1, member.2)) = .table members := by
  have names : (members.map fun member => (some member.1, member.2)).mapM
      (fun member => member.1.map fun name => (name, member.2)) = some members := by
    induction members with
    | nil => rfl
    | cons member members ih =>
        rw [List.map_cons, List.mapM_cons, ih]
        rfl
  rw [tableOf, names]

mutual

theorem foldlM_tokensOf (stack : List Frame) (mayClose : Bool) (rest : List Token) :
    ∀ value : Value, Plain value →
      (tokensOf value ++ rest).foldlM step { stack, position := .value mayClose } =
        rest.foldlM step (complete stack value)
  | .null, _ => foldlM_cons_some rest rfl
  | .bool _, _ => foldlM_cons_some rest rfl
  | .integer _, _ => foldlM_cons_some rest rfl
  | .text _, _ => foldlM_cons_some rest rfl
  | .list [], _ => rfl
  | .list (item :: items), plain => by
      rw [Plain, PlainItems] at plain
      simp only [tokensOf, List.append_assoc, List.cons_append, List.nil_append]
      rw [foldlM_cons_some _ rfl, foldlM_tokensOf (.list [] :: stack) true _ item plain.1]
      rw [complete, foldlM_itemTokens stack [item] _ items plain.2, foldlM_cons_some _ rfl]
      simp
  | .table [], _ => rfl
  | .table ((name, value) :: members), plain => by
      rw [Plain, PlainMembers] at plain
      simp only [tokensOf, List.append_assoc, List.cons_append, List.nil_append]
      rw [foldlM_cons_some _ rfl, foldlM_cons_some _ rfl, foldlM_cons_some _ rfl,
        foldlM_tokensOf (.table (some name) [] :: stack) false _ value plain.1, complete]
      refine (foldlM_memberTokens stack [(name, value)] _ members plain.2).trans ?_
      rw [foldlM_cons_some _ rfl, ← List.map_reverse, tableOf_named]
      simp

theorem foldlM_itemTokens (stack : List Frame) (before : List Value) (rest : List Token) :
    ∀ items : List Value, PlainItems items →
      (itemTokens items ++ rest).foldlM step
          { stack := .list before :: stack, position := .next } =
        rest.foldlM step { stack := .list (items.reverse ++ before) :: stack, position := .next }
  | [], _ => rfl
  | item :: items, plain => by
      rw [PlainItems] at plain
      simp only [itemTokens, List.append_assoc, List.cons_append, List.nil_append]
      rw [foldlM_cons_some _ rfl, foldlM_tokensOf (.list before :: stack) false _ item plain.1,
        complete, foldlM_itemTokens stack (item :: before) _ items plain.2]
      simp

theorem foldlM_memberTokens (stack : List Frame) (before : List (String × Value))
    (rest : List Token) :
    ∀ members : List (String × Value), PlainMembers members →
      (memberTokens members ++ rest).foldlM step
          { stack := .table none (before.map fun member => (some member.1, member.2)) :: stack
            position := .next } =
        rest.foldlM step
          { stack := .table none ((members.reverse ++ before).map
              fun member => (some member.1, member.2)) :: stack
            position := .next }
  | [], _ => rfl
  | (name, value) :: members, plain => by
      rw [PlainMembers] at plain
      simp only [memberTokens, List.append_assoc, List.cons_append, List.nil_append]
      rw [foldlM_cons_some _ rfl, foldlM_cons_some _ rfl, foldlM_cons_some _ rfl,
        foldlM_tokensOf _ false _ value plain.1, complete]
      refine (foldlM_memberTokens stack ((name, value) :: before) _ members plain.2).trans ?_
      simp

end

end Reader

theorem parse?_render {value : Value} (plain : Plain value) :
    parse? (Utf8.encode (render value)) = some value := by
  have read := Reader.foldlM_tokensOf [] false [] value plain
  rw [List.append_nil] at read
  have run : (tokensOf value).foldlM Reader.step Reader.start =
      some (Reader.complete [] value) := read
  rw [parse?, tokens?_render]
  exact congrArg (Option.bind · Reader.value?) run

end QueryJournal.Json
