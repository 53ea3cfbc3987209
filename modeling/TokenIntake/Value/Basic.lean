import TokenIntake.Value.Graph

namespace TokenIntake

inductive Value where
  | scalar (s : Scalar)
  | list (items : List Value)
  | map (entries : List (Scalar × Value))
  | graph (g : Graph)

namespace Value

@[match_pattern] abbrev null : Value := .scalar .null
@[match_pattern] abbrev bool (b : Bool) : Value := .scalar (.bool b)
@[match_pattern] abbrev int (i : Int) : Value := .scalar (.int i)
@[match_pattern] abbrev float (x : Binary64) : Value := .scalar (.float x)
@[match_pattern] abbrev text (t : Text) : Value := .scalar (.text t)

instance : Inhabited Value := ⟨.null⟩

mutual

def decEq : (a b : Value) → Decidable (a = b)
  | .scalar s, .scalar s' =>
    if h : s = s' then isTrue (by rw [h]) else isFalse (fun e => h (Value.scalar.inj e))
  | .list xs, .list ys =>
    match decEqItems xs ys with
    | isTrue h => isTrue (by rw [h])
    | isFalse h => isFalse (fun e => h (Value.list.inj e))
  | .map es, .map fs =>
    match decEqEntries es fs with
    | isTrue h => isTrue (by rw [h])
    | isFalse h => isFalse (fun e => h (Value.map.inj e))
  | .graph g, .graph h =>
    if same : g = h then isTrue (by rw [same]) else isFalse (fun e => same (Value.graph.inj e))
  | .scalar _, .list _ | .scalar _, .map _ | .scalar _, .graph _ | .list _, .scalar _ | .list _, .map _
  | .list _, .graph _ | .map _, .scalar _ | .map _, .list _ | .map _, .graph _ | .graph _, .scalar _
  | .graph _, .list _ | .graph _, .map _ => isFalse (by simp)

def decEqItems : (xs ys : List Value) → Decidable (xs = ys)
  | [], [] => isTrue rfl
  | x :: xs, y :: ys =>
    match decEq x y, decEqItems xs ys with
    | isTrue h, isTrue h' => isTrue (by rw [h, h'])
    | isFalse h, _ => isFalse (fun e => h (List.cons.inj e).1)
    | _, isFalse h => isFalse (fun e => h (List.cons.inj e).2)
  | [], _ :: _ | _ :: _, [] => isFalse (by simp)

def decEqEntries : (es fs : List (Scalar × Value)) → Decidable (es = fs)
  | [], [] => isTrue rfl
  | (k, x) :: es, (l, y) :: fs =>
    match decEq x y, decEqEntries es fs with
    | isTrue h, isTrue h' =>
      if hk : k = l then isTrue (by rw [h, h', hk])
      else isFalse (fun e => hk (Prod.mk.inj (List.cons.inj e).1).1)
    | isFalse h, _ => isFalse (fun e => h (Prod.mk.inj (List.cons.inj e).1).2)
    | _, isFalse h => isFalse (fun e => h (List.cons.inj e).2)
  | [], _ :: _ | _ :: _, [] => isFalse (by simp)

end

instance : DecidableEq Value := decEq

def top : Value → Top
  | .scalar s => .scalar s
  | .list xs => .list xs.isEmpty
  | .map es => .map es.isEmpty
  | .graph g => g.top

def Top.kindName : Top → Text
  | .scalar .null => "NoneType"
  | .scalar (.bool _) => "bool"
  | .scalar (.int _) => "int"
  | .scalar (.float _) => "float"
  | .scalar (.text _) => "str"
  | .scalar (.bytes _) => "bytes"
  | .scalar (.time t) => t.kindName
  | .list _ => "list"
  | .map _ => "dict"
  | .set _ => "set"
  | .pair => "tuple"

def kindName (v : Value) : Text := v.top.kindName

def truthy (v : Value) : Bool :=
  match v.top with
  | .scalar .null => false
  | .scalar (.bool b) => b
  | .scalar (.int i) => i != 0
  | .scalar (.float x) => !x.isZero
  | .scalar (.text t) => !t.isEmpty
  | .scalar (.bytes bs) => !bs.isEmpty
  | .scalar (.time _) | .pair => true
  | .list isEmpty | .map isEmpty | .set isEmpty => !isEmpty

end Value

end TokenIntake
