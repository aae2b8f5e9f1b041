import FaultFinder.KnowledgeBase

/-!
# The standard knowledge base

Six common faults of personal computers, for use when no rule table is given.
-/

namespace FaultFinder
namespace KnowledgeBase

/-- The rules of the standard knowledge base. -/
def standardRules : List Rule :=
  [ { id := 1
      name := "Komputer tidak menyala"
      symptoms := ["Indikator Power mati", "Kipas diam", "LED pada motherboard mati"]
      baseConfidence := 0.8
      remedy := "Periksa PSU dan kabel power. Cek koneksi tombol power ke motherboard." },
    { id := 2
      name := "RAM rusak"
      symptoms := ["Bunyi beep 3 kali", "Layar black screen/blank", "Komputer restart sendiri"]
      baseConfidence := 0.9
      remedy := "Lepas dan bersihkan RAM, lalu pasang kembali. Coba slot RAM berbeda." },
    { id := 3
      name := "Hard disk bermasalah"
      symptoms := ["Bunyi klik", "Booting lambat", "Blue screen"]
      baseConfidence := 0.85
      remedy := "Backup data segera. Periksa kabel SATA dan ganti hard disk jika perlu." },
    { id := 4
      name := "Overheat processor"
      symptoms := ["Komputer restart sendiri", "Kipas bising", "Performa lambat"]
      baseConfidence := 0.75
      remedy := "Bersihkan heatsink dan ganti thermal paste. Periksa sistem pendingin." },
    { id := 5
      name := "VGA Card rusak"
      symptoms := ["Layar black screen/blank", "Muncul artefak pada layar", "Blue screen"]
      baseConfidence := 0.82
      remedy := "Bersihkan slot VGA. Coba VGA di komputer lain atau ganti VGA." },
    { id := 6
      name := "Motherboard bermasalah"
      symptoms := ["Bunyi beep 3 kali", "Slot RAM tidak berfungsi", "Komputer restart sendiri"]
      baseConfidence := 0.7
      remedy := "Periksa kapasitor yang menggembung. Mungkin perlu ganti motherboard." } ]

/-- The standard knowledge base. -/
def standard : KnowledgeBase :=
  ⟨standardRules, by decide +kernel⟩

end KnowledgeBase
end FaultFinder
