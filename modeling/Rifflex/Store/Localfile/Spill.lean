import Rifflex.Store.Localfile

namespace Rifflex.LocalFileStore

theorem buildIndex_next (offset : Int) (blocks : List Block) :
    (buildIndex offset blocks).2.2.2 = offset + lengthSum blocks := by
  induction blocks generalizing offset with
  | nil => simp [buildIndex]
  | cons block rest ih => simp only [buildIndex, ih, lengthSum_cons]; ring

theorem buildIndex_data (offset : Int) (blocks : List Block) :
    (buildIndex offset blocks).2.1 = blocks.map Block.data := by
  induction blocks generalizing offset with
  | nil => rfl
  | cons block rest ih => simp [buildIndex, ih]

theorem buildIndex_append (offset : Int) (blocks more : List Block) :
    (buildIndex offset (blocks ++ more)).1 =
      (buildIndex offset blocks).1 ++ (buildIndex (offset + lengthSum blocks) more).1 := by
  induction blocks generalizing offset with
  | nil => simp [buildIndex]
  | cons block rest ih =>
      simp only [List.cons_append, buildIndex, ih, lengthSum_cons, List.append_assoc, add_assoc]

def indexRecords : Int → List Block → List IndexRecord
  | _, [] => []
  | offset, block :: rest => indexRecord offset block :: indexRecords (offset + block.length) rest

theorem buildIndex_records (offset : Int) (blocks : List Block) :
    (buildIndex offset blocks).1 = ((indexRecords offset blocks).map IndexRecord.encode).flatten := by
  induction blocks generalizing offset with
  | nil => rfl
  | cons block rest ih => simp [buildIndex, indexRecords, ih]

theorem indexRecords_getElem? (offset : Int) (blocks : List Block) (i : Nat) {record : IndexRecord}
    {block : Block} (h : (indexRecords offset blocks)[i]? = some record) (hb : blocks[i]? = some block) :
    record = indexRecord (offset + lengthSum (blocks.take i)) block := by
  induction blocks generalizing offset i with
  | nil => simp at hb
  | cons head rest ih =>
      cases i with
      | zero =>
          simp only [indexRecords, List.getElem?_cons_zero, Option.some.injEq] at h hb
          subst h hb
          simp
      | succ i =>
          simp only [indexRecords, List.getElem?_cons_succ] at h hb
          rw [ih (offset + head.length) i h hb]
          simp [add_assoc]

structure SpilledFiles (P : Block → Prop) (index data : List UInt8) (blocks : List Block) : Prop where
  satisfy : ∀ b ∈ blocks, P b
  index_eq : index = (buildIndex 0 blocks).1
  data_eq : data = (blocks.map Block.data).flatten

def objFile (s : LocalFileStore) (r : Nat) (path : String) : List UInt8 :=
  (s.disk (s.lockedObj r).disk).file path

end Rifflex.LocalFileStore
