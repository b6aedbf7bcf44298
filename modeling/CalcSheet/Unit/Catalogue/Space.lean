import CalcSheet.Unit.Catalogue.Entry

/-!
# Units of length, area and volume

Everything that is a power of a length.
-/
namespace CalcSheet.Catalogue

def space : List Entry :=
  block ⟨-1, 0, 0, 0, 0, 0, 0, 0⟩ [
    ("R_∞", 10973731568157, -6, ["rydberg_constant", "R_inf"]),
    ("cm_1", 1, 2, ["reciprocal_centimeter", "kayser"])] ++
  block ⟨1, 0, 0, 0, 0, 0, 0, 0⟩ [
    ("Gm", 1, 9, ["Gm"]),
    ("Tm", 1, 12, ["Tm"]),
    ("Xu_Cu", 100207697, -21, ["x_unit_Cu", "Xu_Cu"]),
    ("Xu_Mo", 100209952, -21, ["x_unit_Mo", "Xu_Mo"]),
    ("a_0", 52917721054388285428018929655757679557989574975547, -60,
      ["bohr_radius", "atomic_unit_of_length", "a_u_length"]),
    ("a_0", 5291772105438828542801892967, -38, ["bohr"]),
    ("au", 149597870700, 0, ["astronomical_unit", "au"]),
    ("cables_length", 2194564389128778257556515113, -25, ["cables_length"]),
    ("chain", 2011684023368046736093472187, -26, ["chain"]),
    ("cicero", 4511278195488721804511278195, -30, ["cicero"]),
    ("cm", 1, -2, ["centimeter", "centimetre", "cm"]),
    ("didot", 3759398496240601503759398496, -31, ["didot"]),
    ("dm", 1, -1, ["decimeter"]),
    ("fathom", 1828803657607315214630429261, -27, ["fathom"]),
    ("fm", 1, -15, ["fermi", "fm", "femtometer"]),
    ("ft", 30479999999999999999999999996952, -32,
      ["ft", "international_foot", "feet", "international_feet"]),
    ("ft", 3048000000000000000000000000, -28, ["foot"]),
    ("fur", 20116840233680467360934721868800, -29, ["fur"]),
    ("fur", 2011684023368046736093472187, -25, ["furlong"]),
    ("hand", 1016000000000000000000000000, -28, ["hand"]),
    ("in", 2540000000000000000000000000, -29, ["inch"]),
    ("in", 25400000000000000000000000002032, -33,
      ["in", "international_inch", "inches", "international_inches"]),
    ("km", 1, 3, ["kilometer", "km"]),
    ("league", 4828041656083312166624333249, -24, ["league"]),
    ("li", 2011684023368046736093472186880, -31, ["li", "survey_link"]),
    ("li", 2011684023368046736093472187, -28, ["link"]),
    ("ly", 946073047258080000, -2, ["light_year", "ly", "lightyear"]),
    ("m", 1, 0, ["meter", "m", "metre"]),
    ("mi", 16093440, -4, ["mile", "mi", "international_mile", "miles"]),
    ("mm", 1, -3, ["mm"]),
    ("nm", 1, -9, ["nm"]),
    ("nmi", 1852, 0, ["nautical_mile", "nmi"]),
    ("pc", 3085677581467191580787161609, -11, ["parsec"]),
    ("pc", 30856775814671915807871616093599612514853018460022, -33, ["pc"]),
    ("pica", 42333333333333333333333333345186666666666666666666, -52, ["printers_pica"]),
    ("pica", 4233333333333333333333333335, -30, ["pica"]),
    ("planck_length", 1616255024423705286500047698, -62, ["planck_length"]),
    ("pm", 1, -12, ["pm"]),
    ("pp", 3527777777777777777777777778, -31, ["point"]),
    ("pp", 35277777777777777777777777786244444444444444444444, -53,
      ["pp", "printers_point", "big_point", "bp"]),
    ("px", 26458333333333333333333333343916666666666666666666, -53, ["px"]),
    ("px", 2645833333333333333333333335, -31, ["css_pixel"]),
    ("r_e", 28179403204619558631087822219541612172352750010146, -64, ["r_e"]),
    ("r_e", 2817940320461955863108782222, -42, ["classical_electron_radius"]),
    ("rd", 5029210058420116840233680467, -27, ["rod"]),
    ("rd", 502921005842011684023368046720, -29, ["rd", "pole", "perch"]),
    ("scaled_point", 5362851005776947557769475580, -36, ["scaled_point"]),
    ("sft", 3048006096012192024384048768, -28, ["survey_foot", "sft"]),
    ("smi", 16093472186944373888747777495040, -28, ["smi", "us_statute_mile"]),
    ("smi", 1609347218694437388874777750, -24, ["survey_mile"]),
    ("statF", 1, -2, ["statfarad", "statF"]),
    ("tex_cicero", 4512780329311035790949597323, -30, ["tex_cicero"]),
    ("tex_didot", 3760650274425863159124664434, -31, ["tex_didot"]),
    ("tex_pica", 4217517642175176421751764219, -30, ["tex_pica"]),
    ("tex_point", 3514598035145980351459803516, -31, ["tex_point"]),
    ("th", 2540000000000000000000000000, -32, ["thou"]),
    ("th", 25400000000000000000000000002032, -36, ["th", "mil_length"]),
    ("yd", 9144, -4, ["yard", "yd", "international_yard"]),
    ("µ", 1, -6, ["micron", "µ", "μ"]),
    ("µm", 1, -6, ["micrometer", "um", "µm", "μm"]),
    ("Å", 1, -10, ["angstrom", "Å", "ångström", "Å"]),
    ("Å_star", 100001495, -18, ["angstrom_star", "Å_star"])] ++
  block ⟨2, 0, 0, 0, 0, 0, 0, 0⟩ [
    ("acre", 4046872609874252006568529266, -24, ["acre"]),
    ("b", 1, -28, ["barn", "b"]),
    ("cmil", 50670747909749775143163975137022421684776109265427, -59, ["cmil"]),
    ("cmil", 5067074790974977514316397513, -37, ["circular_mil"]),
    ("darcy", 9869232667160128300024673082, -40, ["darcy"]),
    ("ha", 10000, 0, ["hectare", "ha"]),
    ("sq_ft", 92903039999999999999999999981419392000000000000001, -51, ["sq_ft", "square_feet"]),
    ("sq_ft", 9290303999999999999999999999, -29, ["square_foot"]),
    ("sq_in", 6451600000000000000000000001, -31, ["square_inch"]),
    ("sq_in", 64516000000000000000000000010322560000000000000000, -53, ["sq_in", "square_inches"]),
    ("sq_mi", 258998811033600, -8, ["square_mile", "sq_mi"]),
    ("sq_rod", 2529295381171407504105330791, -26, ["square_rod"]),
    ("sq_rod", 25292953811714075041053307911448689994154181856751, -48,
      ["sq_rod", "sq_pole", "sq_perch"]),
    ("sq_yd", 83612736, -8, ["square_yard", "sq_yd"]),
    ("square_league", 2330998623287569155783472857, -20, ["square_league"]),
    ("square_survey_mile", 2589998470319521284203858730, -21, ["square_survey_mile"]),
    ("square_survey_mile", 25899984703195212842038587301323458554013882221313, -43, ["section"]),
    ("σ_e", 6652458705058048208797474805, -56, ["thomson_cross_section"]),
    ("σ_e", 66524587050580482087974748091858275714446043081983, -78, ["σ_e", "sigma_e"])] ++
  block ⟨3, 0, 0, 0, 0, 0, 0, 0⟩ [
    ("FBM", 23597372159999999999999999997168315340800000000000, -52,
      ["FBM", "board_feet", "BF", "BDFT", "super_foot", "superficial_foot", "super_feet",
       "superficial_feet"]),
    ("FBM", 2359737216000000000000000000, -30, ["board_foot"]),
    ("acre_foot", 1233489238468148947899983520, -24, ["acre_foot"]),
    ("acre_foot", 12334892384681489478999835201530984431441279246746, -46, ["acre_feet"]),
    ("bbl", 1192404711960000000000000000, -28, ["barrel"]),
    ("bbl", 11924047119600000000000000002861771308704000000000, -50, ["bbl"]),
    ("beer_bbl", 1173477653040000000000000000, -28, ["beer_barrel"]),
    ("beer_bbl", 11734776530400000000000000002816346367296000000000, -50, ["beer_bbl"]),
    ("bu", 3523907016688000000000000000, -29, ["bushel"]),
    ("bu", 35239070166880000000000000008457376840051199999999, -51, ["bu"]),
    ("cc", 1, -6, ["cubic_centimeter", "cc"]),
    ("cp", 2365882365000000000000000000, -31, ["cup"]),
    ("cp", 23658823650000000000000000005678117676000000000000, -53,
      ["cp", "liquid_cup", "US_liquid_cup"]),
    ("cu_ft", 2831684659199999999999999999, -29, ["cubic_foot"]),
    ("cu_ft", 28316846591999999999999999991504946022400000000000, -51, ["cu_ft", "cubic_feet"]),
    ("cu_in", 1638706400000000000000000000, -32, ["cubic_inch"]),
    ("cu_in", 16387064000000000000000000003932895360000000000000, -54, ["cu_in"]),
    ("cu_yd", 764554857984, -12, ["cubic_yard", "cu_yd"]),
    ("dgal", 4404883770860000000000000000, -30, ["dry_gallon"]),
    ("dgal", 44048837708600000000000000010571721050063999999999, -52, ["dgal", "US_dry_gallon"]),
    ("dpi", 5506104713575000000000000000, -31, ["dry_pint"]),
    ("dpi", 55061047135750000000000000013214651312579999999999, -53, ["dpi", "US_dry_pint"]),
    ("dqt", 1101220942715000000000000000, -30, ["dry_quart"]),
    ("dqt", 11012209427150000000000000002642930262516000000000, -52, ["dqt", "US_dry_quart"]),
    ("dry_barrel", 1156271235840000000000000000, -28, ["dry_barrel"]),
    ("dry_barrel", 11562712358400000000000000002775050966016000000000, -50, ["US_dry_barrel"]),
    ("fifth", 7570823568000000000000000000, -31, ["fifth"]),
    ("fifth", 75708235680000000000000000018169976563199999999999, -53, ["US_liquid_fifth"]),
    ("fldr", 3696691195312500000000000000, -33, ["fluid_dram"]),
    ("fldr", 36966911953125000000000000008872058868750000000000, -55,
      ["fldr", "fluidram", "US_fluid_dram", "US_liquid_dram"]),
    ("floz", 2957352956250000000000000000, -32, ["fluid_ounce"]),
    ("floz", 29573529562500000000000000007097647094999999999999, -54,
      ["floz", "US_fluid_ounce", "US_liquid_ounce"]),
    ("gal", 3785411784000000000000000000, -30, ["gallon"]),
    ("gal", 37854117840000000000000000009084988281599999999999, -52,
      ["gal", "liquid_gallon", "US_liquid_gallon"]),
    ("gi", 1182941182500000000000000000, -31, ["gill"]),
    ("gi", 11829411825000000000000000002839058838000000000000, -53,
      ["gi", "liquid_gill", "US_liquid_gill"]),
    ("hogshead", 2384809423920000000000000000, -28, ["hogshead"]),
    ("imperial_bbl", 16365924, -8, ["imperial_barrel", "imperial_bbl", "UK_bbl"]),
    ("imperial_bu", 3636872, -8, ["imperial_bushel", "imperial_bu", "UK_bushel"]),
    ("imperial_cp", 284130625, -12, ["imperial_cup", "imperial_cp", "UK_cup"]),
    ("imperial_fldr", 35516328125, -16,
      ["imperial_fluid_drachm", "imperial_fldr", "imperial_fluid_dram"]),
    ("imperial_floz", 284130625, -13, ["imperial_fluid_ounce", "imperial_floz", "UK_fluid_ounce"]),
    ("imperial_fluid_scruple", 1183877604166666666666666667, -33, ["imperial_fluid_scruple"]),
    ("imperial_gal", 454609, -8, ["imperial_gallon", "imperial_gal", "UK_gallon"]),
    ("imperial_gi", 1420653125, -13, ["imperial_gill", "imperial_gi", "UK_gill"]),
    ("imperial_minim", 5919388020833333333333333327, -35, ["imperial_minim"]),
    ("imperial_pk", 909218, -8, ["imperial_peck", "imperial_pk", "UK_pk"]),
    ("imperial_pt", 56826125, -11, ["imperial_pint", "imperial_pt", "UK_pint"]),
    ("imperial_qt", 11365225, -10, ["imperial_quart", "imperial_qt", "UK_quart"]),
    ("jig", 4436029434375000000000000000, -32, ["shot"]),
    ("jig", 44360294343750000000000000010646470642499999999999, -54, ["jig", "US_shot"]),
    ("l", 1, -3, ["liter", "l", "L", "ℓ", "litre"]),
    ("minim", 6161151992187499999999999996, -35, ["minim"]),
    ("ml", 1, -6, ["ml"]),
    ("oil_bbl", 1589872949280000000000000000, -28, ["oil_barrel"]),
    ("oil_bbl", 15898729492800000000000000003815695078272000000000, -50, ["oil_bbl"]),
    ("pk", 8809767541720000000000000000, -30, ["peck"]),
    ("pk", 88097675417200000000000000021143442100127999999997, -52, ["pk"]),
    ("pt", 4731764730000000000000000000, -31, ["pint"]),
    ("pt", 47317647300000000000000000011356235351999999999999, -53,
      ["pt", "liquid_pint", "US_pint"]),
    ("qt", 9463529459999999999999999999, -31, ["quart"]),
    ("qt", 94635294600000000000000000022712470703999999999997, -53,
      ["qt", "liquid_quart", "US_liquid_quart"]),
    ("stere", 1, 0, ["stere"]),
    ("tbsp", 1478676478125000000000000000, -32, ["tablespoon"]),
    ("tbsp", 14786764781250000000000000003548823547500000000000, -54, ["tbsp"]),
    ("tsp", 49289215937500000000000000021687255012499999999999, -55, ["tsp"]),
    ("tsp", 4928921593750000000000000003, -33, ["teaspoon"]),
    ("µl", 1, -9, ["microliter"]),
    ("λ", 1, -9, ["lambda", "λ"])]

end CalcSheet.Catalogue
