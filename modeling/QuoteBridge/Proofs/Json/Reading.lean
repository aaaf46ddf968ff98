import Mathlib.Logic.Basic
import QuoteBridge.Json.Reader
import QuoteBridge.Proofs.Json.Scanning
import QuoteBridge.Proofs.Request.RoundTrip

/-!
# Values read from their spellings

Every spelling of a value is read as that value, and nothing shows which one it was.

**Input.**  A spelling of a value with blanks around it.

**Results.**
* `Value.run_tokens`: the reader puts a value in place once it has read its tokens, if the value is
  not too deep.
* `Element.read`: a spelling is read as its value, if all numbers are finite and the value is not
  too deep.
-/

namespace QuoteBridge
namespace Json

section Depth

mutual

/-- How deep the arrays and objects of a value are. -/
def Value.depth : Value → Nat
  | .array items => depthItems items + 1
  | .object members => depthMembers members + 1
  | _ => 0

/-- How deep the arrays and objects of the items of an array are. -/
def depthItems : List Value → Nat
  | [] => 0
  | v :: vs => max v.depth (depthItems vs)

/-- How deep the arrays and objects of the members of an object are. -/
def depthMembers : List (String × Value) → Nat
  | [] => 0
  | (_, v) :: ms => max v.depth (depthMembers ms)

end

/-- Two values fit into the open arrays and objects just if each of them does. -/
theorem fits_max_iff {opened d d' bound : Nat} :
    opened + max d d' ≤ bound ↔ opened + d ≤ bound ∧ opened + d' ≤ bound := by
  omega

end Depth

open Reader

section Running

namespace Reader

theorem run_cons {r r' : Reader} {t : Token} (h : r.step t = some r') (ts : List Token) :
    run r (t :: ts) = run r' ts := by
  simp only [run, h]

theorem run_cons_bind (r : Reader) (t : Token) (ts : List Token) :
    run r (t :: ts) = (r.step t).bind (fun r' => run r' ts) := by
  cases h : r.step t <;> simp [run, h]

/-- What is opened goes on the stack, if there is room. -/
theorem run_open {stack : List Frame} {t : Token} {f : Frame} {e : Expected}
    (h : beginValue stack t = openFrame f e stack) (ts : List Token) :
    run ⟨stack, .value⟩ (t :: ts) =
      if stack.length < maxDepth then run ⟨f :: stack, e⟩ ts else none := by
  have hstep : step ⟨stack, .value⟩ t = openFrame f e stack := h
  rw [run_cons_bind, hstep, openFrame]
  split <;> rfl

/-- No value begins with the end of an array. -/
theorem run_itemOrEnd (v : Value) (stack : List Frame) (ts : List Token) :
    run ⟨stack, .itemOrEnd⟩ (v.tokens ++ ts) = run ⟨stack, .value⟩ (v.tokens ++ ts) := by
  cases v <;> simp only [Value.tokens, List.cons_append, run_cons_bind] <;> rfl

/-- The members of an object begin with a key, and the end of an object is read only before it. -/
theorem run_keyOrEnd {m : String × Value} {ms : List (String × Value)} {stack : List Frame}
    {ts : List Token} :
    run ⟨stack, .keyOrEnd⟩ (memberTokens (m :: ms) ++ ts) =
      run ⟨stack, .key⟩ (memberTokens (m :: ms) ++ ts) := by
  cases ms <;> simp only [memberTokens, List.cons_append, run_cons_bind] <;> rfl

/-- The key of a member and the colon behind it. -/
theorem run_member (k : String) (ms : List (String × Value)) (stack : List Frame)
    (ts : List Token) :
    run ⟨.object ms :: stack, .key⟩ (.text k :: .colon :: ts) =
      run ⟨.member ms k :: stack, .value⟩ ts := by
  have hkey : step ⟨.object ms :: stack, .key⟩ (.text k) =
      some ⟨.member ms k :: stack, .colon⟩ := rfl
  have hcolon : step ⟨.member ms k :: stack, .colon⟩ .colon =
      some ⟨.member ms k :: stack, .value⟩ := rfl
  rw [run_cons hkey, run_cons hcolon]

end Reader

mutual

/-- The reader puts a value in place once it has read its tokens, if the value is not too deep. -/
theorem Value.run_tokens : ∀ (v : Value) {stack : List Frame} (ts : List Token),
    stack.length ≤ maxDepth →
      run ⟨stack, .value⟩ (v.tokens ++ ts) =
        if stack.length + v.depth ≤ maxDepth then (supply v stack).bind (fun r => run r ts)
        else none
  | .null, _, _, h => (run_cons_bind ..).trans (if_pos h).symm
  | .bool _, _, _, h => (run_cons_bind ..).trans (if_pos h).symm
  | .number _, _, _, h => (run_cons_bind ..).trans (if_pos h).symm
  | .text _, _, _, h => (run_cons_bind ..).trans (if_pos h).symm
  | .array items, stack, ts, h => by
      have hdepth : stack.length + (Value.array items).depth =
          stack.length + 1 + depthItems items := by
        rw [Value.depth]
        omega
      rw [hdepth]
      simp only [Value.tokens, List.cons_append, List.append_assoc, List.nil_append]
      rw [run_open rfl]
      split
      · rename_i hroom
        cases items with
        | nil => exact (run_cons_bind ..).trans (if_pos hroom).symm
        | cons v vs =>
            have hrun := run_items (v :: vs) [] ts (List.cons_ne_nil v vs) hroom
            rw [List.reverse_nil, List.nil_append] at hrun
            rw [← hrun]
            cases vs <;> simp only [itemTokens, List.append_assoc] <;> exact run_itemOrEnd v _ _
      · rw [if_neg (by omega)]
  | .object members, stack, ts, h => by
      have hdepth : stack.length + (Value.object members).depth =
          stack.length + 1 + depthMembers members := by
        rw [Value.depth]
        omega
      rw [hdepth]
      simp only [Value.tokens, List.cons_append, List.append_assoc, List.nil_append]
      rw [run_open rfl]
      split
      · rename_i hroom
        cases members with
        | nil => exact (run_cons_bind ..).trans (if_pos hroom).symm
        | cons m ms =>
            rw [run_keyOrEnd]
            exact run_members (m :: ms) [] ts (List.cons_ne_nil m ms) hroom
      · rw [if_neg (by omega)]

theorem run_items : ∀ (vs acc : List Value) {stack : List Frame} (ts : List Token), vs ≠ [] →
    stack.length < maxDepth →
      run ⟨.array acc :: stack, .value⟩ (itemTokens vs ++ .closeArray :: ts) =
        if stack.length + 1 + depthItems vs ≤ maxDepth then
          (supply (.array (acc.reverse ++ vs)) stack).bind (fun r => run r ts)
        else none
  | [], _, _, _, hne, _ => absurd rfl hne
  | [v], acc, stack, ts, _, h => by
      have hstack : (Frame.array acc :: stack).length ≤ maxDepth := h
      rw [itemTokens, Value.run_tokens v _ hstack, depthItems, depthItems, Nat.max_zero,
        List.length_cons, supply, Option.bind_some, run_cons_bind]
      simp [step, closeArray]
  | v :: v' :: vs, acc, stack, ts, _, h => by
      have hrest := run_items (v' :: vs) (v :: acc) ts (List.cons_ne_nil _ _) h
      have hcomma : step ⟨.array (v :: acc) :: stack, .separator⟩ .comma =
          some ⟨.array (v :: acc) :: stack, .value⟩ := rfl
      have hstack : (Frame.array acc :: stack).length ≤ maxDepth := h
      simp only [itemTokens, List.append_assoc, List.cons_append]
      rw [Value.run_tokens v _ hstack, supply, Option.bind_some, run_cons hcomma, hrest,
        ← ite_and, List.length_cons]
      simp [depthItems, fits_max_iff]

theorem run_members : ∀ (ms acc : List (String × Value)) {stack : List Frame} (ts : List Token),
    ms ≠ [] → stack.length < maxDepth →
      run ⟨.object acc :: stack, .key⟩ (memberTokens ms ++ .closeObject :: ts) =
        if stack.length + 1 + depthMembers ms ≤ maxDepth then
          (supply (.object (acc.reverse ++ ms)) stack).bind (fun r => run r ts)
        else none
  | [], _, _, _, hne, _ => absurd rfl hne
  | [(k, v)], acc, stack, ts, _, h => by
      have hstack : (Frame.member acc k :: stack).length ≤ maxDepth := h
      rw [memberTokens, List.cons_append, List.cons_append, run_member,
        Value.run_tokens v _ hstack, depthMembers, depthMembers, Nat.max_zero, List.length_cons,
        supply, Option.bind_some, run_cons_bind]
      simp [step, closeObject]
  | (k, v) :: m :: ms, acc, stack, ts, _, h => by
      have hrest := run_members (m :: ms) ((k, v) :: acc) ts (List.cons_ne_nil _ _) h
      have hcomma : step ⟨.object ((k, v) :: acc) :: stack, .separator⟩ .comma =
          some ⟨.object ((k, v) :: acc) :: stack, .key⟩ := rfl
      have hstack : (Frame.member acc k :: stack).length ≤ maxDepth := h
      simp only [memberTokens, List.append_assoc, List.cons_append]
      rw [run_member, Value.run_tokens v _ hstack, supply, Option.bind_some, run_cons hcomma,
        hrest, ← ite_and, List.length_cons]
      simp [depthMembers, fits_max_iff]

end

end Running

section Reading

/-- A spelling is read as its value, if all numbers are finite and the value is not too deep. -/
theorem Element.read {text : List Char} {v : Value} (h : Element text v) :
    Value.read text = if v.isFinite ∧ v.depth ≤ maxDepth then some v else none := by
  have htokens : Scan.tokens? .between text = if v.isFinite then some v.tokens else none := by
    have hscan := h.yields [] (fun c hc => by cases hc)
    rw [List.append_nil] at hscan
    simpa [Scan.tokens?, Scan.finish?] using hscan
  have hrun : run .initial v.tokens = if v.depth ≤ maxDepth then some v else none := by
    have hreader := @Value.run_tokens v [] [] (Nat.zero_le _)
    rw [List.append_nil, List.length_nil, Nat.zero_add] at hreader
    exact hreader
  rw [Value.read, htokens, ite_and]
  cases v.isFinite with
  | false => rfl
  | true => exact hrun

/-- The octets of a spelling are read as its value. -/
theorem Element.readBytes {text : String} {v : Value} (h : Element text.toList v) :
    Value.readBytes text.toUTF8 = if v.isFinite ∧ v.depth ≤ maxDepth then some v else none := by
  rw [Value.readBytes, fromUTF8?_toUTF8, Option.bind_some, h.read]

end Reading

end Json
end QuoteBridge
