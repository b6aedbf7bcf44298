import CalcSheet.Unit.Catalogue.Entry

/-!
# Electric and magnetic units

Everything with a power of the current in its dimensions.
-/
namespace CalcSheet.Catalogue

def electricity : List Entry :=
  block ⟨-2, -1, 2, 1, 0, 0, 0, 0⟩ [
    ("K_J", 48359784841698363244765828505452813535335118660041, -35, ["K_J"]),
    ("K_J", 4835978484169836324476582851, -13, ["josephson_constant"]),
    ("K_J90", 4835979, 8, ["conventional_josephson_constant"])] ++
  block ⟨-2, -1, 3, 2, 0, 0, 0, 0⟩ [
    ("G_0", 7748091729863650646680823323, -32, ["conductance_quantum"]),
    ("S", 1, 0, ["siemens", "S", "mho"]),
    ("abS", 1, 9, ["absiemens", "abS", "abmho"])] ++
  block ⟨-2, -1, 4, 2, 0, 0, 0, 0⟩ [
    ("F", 1, 0, ["farad", "F"]),
    ("abF", 1, 9, ["abfarad", "abF"])] ++
  block ⟨-3, -1, 4, 2, 0, 0, 0, 0⟩ [
    ("ε_0", 88541878187922509715328233230139695080055338213556, -61, ["electric_constant"]),
    ("ε_0", 8854187818792250971532823324, -39, ["vacuum_permittivity"])] ++
  block ⟨0, -1, 1, 1, 0, 0, 0, 0⟩ [
    ("roentgen", 258, -6, ["roentgen", "röntgen"])] ++
  block ⟨0, 0, 0, 1, 0, 0, 0, 0⟩ [
    ("A", 1, 0, ["ampere", "A", "amp"]),
    ("A_US", 99983508163459087751562976326718274454145198126928, -50, ["A_US"]),
    ("A_US", 9998350816345908775156297633, -28, ["US_international_ampere"]),
    ("A_it", 99985007346400263870703355355875620945736589071355, -50, ["A_it"]),
    ("A_it", 9998500734640026387070335536, -28, ["mean_international_ampere"]),
    ("At", 1, 0, ["ampere_turn", "At"]),
    ("Bi", 10, 0, ["biot", "Bi"]),
    ("Gb", 7957747154594766788444188168, -28, ["gilbert"]),
    ("Gb", 79577471545947667884441881686257181017229822870228, -50, ["Gb"]),
    ("a_u_current", 6623618237508186151037332456, -30, ["atomic_unit_of_current"]),
    ("a_u_current", 66236182375081861510373324571562248187542065092472, -52, ["a_u_current"]),
    ("abA", 10, 0, ["abampere", "abA"]),
    ("biot_turn", 10, 0, ["biot_turn"]),
    ("mA", 1, -3, ["mA"]),
    ("planck_current", 3478872754928505418242414698, -2, ["planck_current"])] ++
  block ⟨0, 0, 1, 1, 0, 0, 0, 0⟩ [
    ("Ah", 3600, 0, ["ampere_hour", "Ah"]),
    ("C", 1, 0, ["coulomb", "C"]),
    ("abC", 10, 0, ["abcoulomb", "abC"]),
    ("e", 1602176634, -28, ["elementary_charge", "e"]),
    ("faraday", 964853321233100184, -13, ["faraday"])] ++
  block ⟨0, 1, -2, -1, 0, 0, 0, 0⟩ [
    ("T", 1, 0, ["tesla", "T"]),
    ("γ", 1, -9, ["gamma", "γ"])] ++
  block ⟨0, 1, -3, -1, 0, 0, 0, 0⟩ [
    ("a_u_efg", 9717362442414773625653950899, -6, ["atomic_unit_of_electric_field_gradient"]),
    ("a_u_efg", 97173624424147736256539509008595316043083241583107, -28, ["a_u_efg"])] ++
  block ⟨1, 0, 1, 1, 0, 0, 0, 0⟩ [
    ("D", 33356409519815204957557671447491851179258151984597, -79, ["D"]),
    ("D", 3335640951981520495755767145, -57, ["debye"])] ++
  block ⟨1, 1, -2, -2, 0, 0, 0, 0⟩ [
    ("µ_0", 12566370612696000514279927577820944318905797639777, -55, ["magnetic_constant"]),
    ("µ_0", 1256637061269600051427992759, -33, ["vacuum_permeability"])] ++
  block ⟨1, 1, -3, -1, 0, 0, 0, 0⟩ [
    ("a_u_electric_field", 51422067511209423912608008400886818785822637657736, -38,
      ["a_u_electric_field"]),
    ("a_u_electric_field", 5142206751120942391260800842, -16, ["atomic_unit_of_electric_field"])] ++
  block ⟨2, 0, 0, 1, 0, 0, 0, 0⟩ [
    ("µ_B", 9274010065738068820809693065, -51, ["bohr_magneton"]),
    ("µ_B", 92740100657380688208096930685502597450476201989132, -73, ["µ_B", "mu_B"]),
    ("µ_N", 50507837392718971429504711647182298139687708797210, -76, ["µ_N", "mu_N"]),
    ("µ_N", 5050783739271897142950471164, -54, ["nuclear_magneton"])] ++
  block ⟨2, 0, 1, 1, 0, 0, 0, 0⟩ [
    ("buckingham", 3335640951981520495755767145, -67, ["buckingham"])] ++
  block ⟨2, 1, -2, -1, 0, 0, 0, 0⟩ [
    ("Wb", 1, 0, ["weber", "Wb"]),
    ("unit_pole", 1256637061269600051427992759, -34, ["unit_pole"]),
    ("Φ_0", 2067833848461929323081115412, -42, ["magnetic_flux_quantum"])] ++
  block ⟨2, 1, -2, -2, 0, 0, 0, 0⟩ [
    ("H", 1, 0, ["henry", "H"]),
    ("abH", 1, -9, ["abhenry", "abH"])] ++
  block ⟨2, 1, -3, -1, 0, 0, 0, 0⟩ [
    ("V", 1, 0, ["volt", "V"]),
    ("V_US", 100033, -5, ["US_international_volt", "V_US"]),
    ("V_it", 100034, -5, ["mean_international_volt", "V_it"]),
    ("abV", 1, -8, ["abvolt", "abV"]),
    ("mV", 1, -3, ["mV"])] ++
  block ⟨2, 1, -3, -2, 0, 0, 0, 0⟩ [
    ("R_K", 25812807459304506660045516706087443042457273221403, -45, ["R_K"]),
    ("R_K", 2581280745930450666004551671, -23, ["von_klitzing_constant"]),
    ("R_K90", 25812807, -3, ["conventional_von_klitzing_constant"]),
    ("TΩ", 1, 12, ["teraohm"]),
    ("Z_0", 37673031341191000009452435886169271812459049448793, -47,
      ["characteristic_impedance_of_vacuum"]),
    ("Z_0", 3767303134119100000945243591, -25, ["impedance_of_free_space"]),
    ("abΩ", 1, -9, ["abohm", "abΩ"]),
    ("kΩ", 1, 3, ["kΩ"]),
    ("Ω", 1, 0, ["ohm", "Ω"]),
    ("Ω_US", 1000495, -6, ["US_international_ohm", "Ω_US", "ohm_US"]),
    ("Ω_it", 100049, -5, ["mean_international_ohm", "Ω_it", "ohm_it"])] ++
  block ⟨3, 1, -4, -2, 0, 0, 0, 0⟩ [
    ("k_C", 89875517861786644167321946472568149489109167369540, -40, ["k_C"]),
    ("k_C", 8987551786178664416732194650, -18, ["coulomb_constant"])] ++
  block ⟨4, 1, -3, -1, 0, 0, 0, 0⟩ [
    ("Td", 1, -21, ["townsend", "Td"])]

end CalcSheet.Catalogue
