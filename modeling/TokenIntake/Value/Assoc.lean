namespace TokenIntake.Assoc

variable {α β κ : Type} [DecidableEq κ] (key : α → κ)

def get? : List (α × β) → α → Option β
  | [], _ => none
  | (k', v) :: rest, k => if key k' = key k then some v else get? rest k

def contains (entries : List (α × β)) (k : α) : Bool := (get? key entries k).isSome

/-- Binds `k` to `v`: where `k` is bound already, with its old key and place, and else at the end. -/
def put : List (α × β) → α → β → List (α × β)
  | [], k, v => [(k, v)]
  | (k', v') :: rest, k, v => if key k' = key k then (k', v) :: rest else (k', v') :: put rest k v

def erase : List (α × β) → α → List (α × β)
  | [], _ => []
  | (k', v') :: rest, k => if key k' = key k then rest else (k', v') :: erase rest k

def putAll (entries more : List (α × β)) : List (α × β) :=
  more.foldl (fun done (k, v) => put key done k v) entries

def ofPairs (pairs : List (α × β)) : List (α × β) := putAll key [] pairs

def Distinct (entries : List (α × β)) : Prop := (entries.map fun e => key e.1).Nodup

@[simp] theorem get?_put (entries : List (α × β)) (k k' : α) (v : β) :
    get? key (put key entries k v) k' = if key k = key k' then some v else get? key entries k' := by
  induction entries with
  | nil => simp [put, get?]
  | cons e rest ih =>
    by_cases same : key e.1 = key k
    · by_cases asked : key k = key k'
      · simp [put, get?, same, asked]
      · simp [put, get?, same, asked]
    · by_cases asked : key k = key k'
      · have other : ¬key e.1 = key k' := fun h => same (h.trans asked.symm)
        simp [put, get?, other, ih, asked]
      · simp [put, get?, same, ih, asked]

theorem keys_put (entries : List (α × β)) (k : α) (v : β) :
    (put key entries k v).map (fun e => key e.1) =
      if key k ∈ entries.map (fun e => key e.1) then entries.map (fun e => key e.1)
      else entries.map (fun e => key e.1) ++ [key k] := by
  induction entries with
  | nil => simp [put]
  | cons e rest ih =>
    by_cases same : key e.1 = key k
    · simp [put, same]
    · have other : ¬key k = key e.1 := fun h => same h.symm
      by_cases bound : key k ∈ rest.map fun e => key e.1
      · simp only [put, same, if_false, List.map_cons, ih, bound, if_true, List.mem_cons, or_true]
      · simp only [put, same, if_false, List.map_cons, ih, bound, List.mem_cons, other, or_self, List.cons_append]

theorem Distinct.put {entries : List (α × β)} (distinct : Distinct key entries) (k : α) (v : β) :
    Distinct key (put key entries k v) := by
  unfold Distinct at *
  rw [keys_put]
  split
  · exact distinct
  · rename_i fresh
    exact List.nodup_append.mpr ⟨distinct, by simp, fun a ha b hb => by
      rw [List.mem_singleton.mp hb]
      exact fun h => fresh (h ▸ ha)⟩

end TokenIntake.Assoc
