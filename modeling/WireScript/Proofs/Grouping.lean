import WireScript.Grouping

/-! # Buckets

The buckets of a size are the runs of that many numbers that begin at its multiples. A
number is placed by dividing and multiplying again in sixteen bits. It is seen here that
nothing is lost on the way, that the number in the name of a directory is where the bucket
of the message begins, and that two messages share a directory exactly if they share a
bucket.
-/

namespace WireScript.Grouping

/-- The bucket of a size that begins at `start` holds a number. The end of the last
bucket may be beyond the numbers there are. -/
structure BucketHolds (size start id : Nat) : Prop where
  divides : size ∣ start
  start_le : start ≤ id
  lt_end : id < start + size

/-- Every number is in one bucket, which begins where division with rest says. -/
theorem bucketHolds_iff {size start id : Nat} (hsize : 0 < size) :
    BucketHolds size start id ↔ start = id / size * size := by
  constructor
  · intro hholds
    obtain ⟨quotient, hstart⟩ := hholds.divides
    rw [Nat.mul_comm] at hstart
    have hquotient : id / size = quotient := by
      apply Nat.div_eq_of_lt_le
      · exact hstart ▸ hholds.start_le
      · rw [Nat.succ_mul, ← hstart]
        exact hholds.lt_end
    rw [hquotient, hstart]
  · rintro rfl
    exact ⟨Nat.dvd_mul_left _ _, Nat.div_mul_le_self _ _, Nat.lt_div_mul_add hsize⟩

/-- The product that a bucket begins at is no larger than the number it is made from. -/
theorem bucketStart_fits (size id : ProtocolId) : (id / size).toNat * size.toNat < UInt16.size := by
  rw [UInt16.toNat_div]
  exact Nat.lt_of_le_of_lt (Nat.div_mul_le_self _ _) id.toNat_lt_size

theorem toNat_bucketStart (size id : ProtocolId) :
    (bucketStart size id).toNat = id.toNat / size.toNat * size.toNat := by
  rw [bucketStart, UInt16.toNat_mul, Nat.mod_eq_of_lt (bucketStart_fits size id),
    UInt16.toNat_div]

theorem bucketStart_eq_iff {size : ProtocolId} (positive : 0 < size.toNat)
    (first second : ProtocolId) :
    (bucketStart size first).toNat = (bucketStart size second).toNat ↔
      first / size = second / size := by
  rw [toNat_bucketStart, toNat_bucketStart, Nat.mul_left_inj (Nat.ne_of_gt positive),
    ← UInt16.toNat_div, ← UInt16.toNat_div, UInt16.toNat_inj]

/-- The name of a bucket tells its number. -/
theorem bucketName_inj {first second : Nat} :
    "p" ++ Text.decimal first = "p" ++ Text.decimal second ↔ first = second := by
  rw [String.append_right_inj, Text.decimal_inj]

/-- Buckets of any positive size can be had, and they part the numbers. The product that
places a number is within sixteen bits, the directory of the number tells where the one
bucket that holds it begins, and two numbers are in one directory exactly if they have the
same quotient. -/
theorem buckets_partition (size : ProtocolId) (positive : size ≠ 0) :
    ∃ grouping, ofBucketSize size = .ok grouping ∧
      ∀ first second : ProtocolId,
        (first / size).toNat * size.toNat < UInt16.size ∧
        grouping.directory first = "p" ++ Text.decimal (bucketStart size first).toNat ∧
        (∀ start, grouping.directory first = "p" ++ Text.decimal start ↔
          BucketHolds size.toNat start first.toNat) ∧
        (grouping.directory first = grouping.directory second ↔
          first / size = second / size) := by
  have hsize : 0 < size.toNat :=
    Nat.pos_of_ne_zero fun hzero => positive (UInt16.toNat_inj.mp hzero)
  refine ⟨.buckets size positive, dif_pos positive, ?_⟩
  intro first second
  refine ⟨bucketStart_fits size first, rfl, ?_, ?_⟩
  · intro start
    rw [directory, bucketName_inj, toNat_bucketStart, bucketHolds_iff hsize, eq_comm]
  · rw [directory, directory, bucketName_inj, bucketStart_eq_iff hsize]

/-- The last bucket of a large size begins within sixteen bits and ends beyond them. -/
theorem buckets_partition_lastBucket :
    (40000 : ProtocolId) ≠ 0 ∧
      ∃ grouping, ofBucketSize 40000 = .ok grouping ∧
        grouping.directory 65535 = "p40000" ∧ BucketHolds 40000 40000 65535 ∧
        UInt16.size < 40000 + 40000 ∧
        grouping.directory 65535 ≠ grouping.directory 39999 := by
  have hpositive : (40000 : ProtocolId) ≠ 0 := by decide
  obtain ⟨grouping, hbuild, hplaces⟩ := buckets_partition 40000 hpositive
  obtain ⟨-, hname, hholds, hshared⟩ := hplaces 65535 39999
  refine ⟨hpositive, grouping, hbuild, hname, (hholds 40000).mp hname, by decide, ?_⟩
  rw [Ne, hshared]
  decide

end WireScript.Grouping
