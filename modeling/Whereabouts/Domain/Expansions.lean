/-!
# Expansions of characters

Characters that are written as several others in a name: ligatures, numbers in
frames, abbreviations and letters with a mark of their own.
-/

namespace Whereabouts
namespace Domain

/-- Expanded code points one after the other, from the first of them on, and what
each is written as. -/
def expansionBlocks : List (Nat × List (List Nat)) :=
  [(168, [[32, 776]]),
    (175, [[32, 772]]),
    (180, [[32, 769]]),
    (184, [[32, 807]]),
    (188, [[49, 8260, 52], [49, 8260, 50], [51, 8260, 52]]),
    (304, [[105, 775]]),
    (306, [[105, 106], [105, 106]]),
    (319, [[108, 183], [108, 183]]),
    (329, [[700, 110]]),
    (452, [[100, 382], [100, 382], [100, 382], [108, 106], [108, 106], [108, 106],
      [110, 106], [110, 106], [110, 106]]),
    (497, [[100, 122], [100, 122], [100, 122]]),
    (728, [[32, 774], [32, 775], [32, 778], [32, 808], [32, 771], [32, 779]]),
    (836, [[776, 769]]),
    (890, [[32, 953]]),
    (900, [[32, 769], [32, 776, 769]]),
    (1415, [[1381, 1410]]),
    (1653, [[1575, 1652], [1608, 1652], [1735, 1652], [1610, 1652]]),
    (2392, [[2325, 2364], [2326, 2364], [2327, 2364], [2332, 2364], [2337, 2364],
      [2338, 2364], [2347, 2364], [2351, 2364]]),
    (2524, [[2465, 2492], [2466, 2492]]),
    (2527, [[2479, 2492]]),
    (2611, [[2610, 2620]]),
    (2614, [[2616, 2620]]),
    (2649, [[2582, 2620], [2583, 2620], [2588, 2620]]),
    (2654, [[2603, 2620]]),
    (2908, [[2849, 2876], [2850, 2876]]),
    (3635, [[3661, 3634]]),
    (3763, [[3789, 3762]]),
    (3804, [[3755, 3737], [3755, 3745]]),
    (3907, [[3906, 4023]]),
    (3917, [[3916, 4023]]),
    (3922, [[3921, 4023]]),
    (3927, [[3926, 4023]]),
    (3932, [[3931, 4023]]),
    (3945, [[3904, 4021]]),
    (3955, [[3953, 3954]]),
    (3957, [[3953, 3956], [4018, 3968], [4018, 3953, 3968], [4019, 3968],
      [4019, 3953, 3968]]),
    (3969, [[3953, 3968]]),
    (3987, [[3986, 4023]]),
    (3997, [[3996, 4023]]),
    (4002, [[4001, 4023]]),
    (4007, [[4006, 4023]]),
    (4012, [[4011, 4023]]),
    (4025, [[3984, 4021]]),
    (7834, [[97, 702]]),
    (8064, [[7936, 953], [7937, 953], [7938, 953], [7939, 953], [7940, 953], [7941, 953],
      [7942, 953], [7943, 953], [7936, 953], [7937, 953], [7938, 953], [7939, 953],
      [7940, 953], [7941, 953], [7942, 953], [7943, 953], [7968, 953], [7969, 953],
      [7970, 953], [7971, 953], [7972, 953], [7973, 953], [7974, 953], [7975, 953],
      [7968, 953], [7969, 953], [7970, 953], [7971, 953], [7972, 953], [7973, 953],
      [7974, 953], [7975, 953], [8032, 953], [8033, 953], [8034, 953], [8035, 953],
      [8036, 953], [8037, 953], [8038, 953], [8039, 953], [8032, 953], [8033, 953],
      [8034, 953], [8035, 953], [8036, 953], [8037, 953], [8038, 953], [8039, 953]]),
    (8114, [[8048, 953], [945, 953], [940, 953]]),
    (8119, [[8118, 953]]),
    (8124, [[945, 953], [32, 787]]),
    (8127, [[32, 787], [32, 834], [32, 776, 834], [8052, 953], [951, 953], [942, 953]]),
    (8135, [[8134, 953]]),
    (8140, [[951, 953], [32, 787, 768], [32, 787, 769], [32, 787, 834]]),
    (8157, [[32, 788, 768], [32, 788, 769], [32, 788, 834]]),
    (8173, [[32, 776, 768], [32, 776, 769]]),
    (8178, [[8060, 953], [969, 953], [974, 953]]),
    (8183, [[8182, 953]]),
    (8188, [[969, 953], [32, 769], [32, 788]]),
    (8215, [[32, 819]]),
    (8243, [[8242, 8242], [8242, 8242, 8242]]),
    (8246, [[8245, 8245], [8245, 8245, 8245]]),
    (8252, [[33, 33]]),
    (8254, [[32, 773]]),
    (8263, [[63, 63], [63, 33], [33, 63]]),
    (8279, [[8242, 8242, 8242, 8242]]),
    (8360, [[114, 115]]),
    (8448, [[97, 47, 99], [97, 47, 115]]),
    (8451, [[176, 99]]),
    (8453, [[99, 47, 111], [99, 47, 117]]),
    (8457, [[176, 102]]),
    (8470, [[110, 111]]),
    (8480, [[115, 109], [116, 101, 108], [116, 109]]),
    (8507, [[102, 97, 120]]),
    (8528, [[49, 8260, 55], [49, 8260, 57], [49, 8260, 49, 48], [49, 8260, 51],
      [50, 8260, 51], [49, 8260, 53], [50, 8260, 53], [51, 8260, 53], [52, 8260, 53],
      [49, 8260, 54], [53, 8260, 54], [49, 8260, 56], [51, 8260, 56], [53, 8260, 56],
      [55, 8260, 56], [49, 8260]]),
    (8545, [[105, 105], [105, 105, 105], [105, 118]]),
    (8549, [[118, 105], [118, 105, 105], [118, 105, 105, 105], [105, 120]]),
    (8554, [[120, 105], [120, 105, 105]]),
    (8561, [[105, 105], [105, 105, 105], [105, 118]]),
    (8565, [[118, 105], [118, 105, 105], [118, 105, 105, 105], [105, 120]]),
    (8570, [[120, 105], [120, 105, 105]]),
    (8585, [[48, 8260, 51]]),
    (8748, [[8747, 8747], [8747, 8747, 8747]]),
    (8751, [[8750, 8750], [8750, 8750, 8750]]),
    (9321, [[49, 48], [49, 49], [49, 50], [49, 51], [49, 52], [49, 53], [49, 54],
      [49, 55], [49, 56], [49, 57], [50, 48], [40, 49, 41], [40, 50, 41], [40, 51, 41],
      [40, 52, 41], [40, 53, 41], [40, 54, 41], [40, 55, 41], [40, 56, 41], [40, 57, 41],
      [40, 49, 48, 41], [40, 49, 49, 41], [40, 49, 50, 41], [40, 49, 51, 41],
      [40, 49, 52, 41], [40, 49, 53, 41], [40, 49, 54, 41], [40, 49, 55, 41],
      [40, 49, 56, 41], [40, 49, 57, 41], [40, 50, 48, 41]]),
    (9372, [[40, 97, 41], [40, 98, 41], [40, 99, 41], [40, 100, 41], [40, 101, 41],
      [40, 102, 41], [40, 103, 41], [40, 104, 41], [40, 105, 41], [40, 106, 41],
      [40, 107, 41], [40, 108, 41], [40, 109, 41], [40, 110, 41], [40, 111, 41],
      [40, 112, 41], [40, 113, 41], [40, 114, 41], [40, 115, 41], [40, 116, 41],
      [40, 117, 41], [40, 118, 41], [40, 119, 41], [40, 120, 41], [40, 121, 41],
      [40, 122, 41]]),
    (10764, [[8747, 8747, 8747, 8747]]),
    (10868, [[58, 58, 61], [61, 61], [61, 61, 61]]),
    (10972, [[10973, 824]]),
    (12443, [[32, 12441], [32, 12442]]),
    (12447, [[12424, 12426]]),
    (12543, [[12467, 12488]]),
    (12800, [[40, 4352, 41], [40, 4354, 41], [40, 4355, 41], [40, 4357, 41],
      [40, 4358, 41], [40, 4359, 41], [40, 4361, 41], [40, 4363, 41], [40, 4364, 41],
      [40, 4366, 41], [40, 4367, 41], [40, 4368, 41], [40, 4369, 41], [40, 4370, 41],
      [40, 44032, 41], [40, 45208, 41], [40, 45796, 41], [40, 46972, 41], [40, 47560, 41],
      [40, 48148, 41], [40, 49324, 41], [40, 50500, 41], [40, 51088, 41], [40, 52264, 41],
      [40, 52852, 41], [40, 53440, 41], [40, 54028, 41], [40, 54616, 41], [40, 51452, 41],
      [40, 50724, 51204, 41], [40, 50724, 54980, 41]]),
    (12832, [[40, 19968, 41], [40, 20108, 41], [40, 19977, 41], [40, 22235, 41],
      [40, 20116, 41], [40, 20845, 41], [40, 19971, 41], [40, 20843, 41], [40, 20061, 41],
      [40, 21313, 41], [40, 26376, 41], [40, 28779, 41], [40, 27700, 41], [40, 26408, 41],
      [40, 37329, 41], [40, 22303, 41], [40, 26085, 41], [40, 26666, 41], [40, 26377, 41],
      [40, 31038, 41], [40, 21517, 41], [40, 29305, 41], [40, 36001, 41], [40, 31069, 41],
      [40, 21172, 41], [40, 20195, 41], [40, 21628, 41], [40, 23398, 41], [40, 30435, 41],
      [40, 20225, 41], [40, 36039, 41], [40, 21332, 41], [40, 31085, 41], [40, 20241, 41],
      [40, 33258, 41], [40, 33267, 41]]),
    (12880, [[112, 116, 101], [50, 49], [50, 50], [50, 51], [50, 52], [50, 53], [50, 54],
      [50, 55], [50, 56], [50, 57], [51, 48], [51, 49], [51, 50], [51, 51], [51, 52],
      [51, 53]]),
    (12924, [[52280, 44256], [51452, 51032]]),
    (12977, [[51, 54], [51, 55], [51, 56], [51, 57], [52, 48], [52, 49], [52, 50],
      [52, 51], [52, 52], [52, 53], [52, 54], [52, 55], [52, 56], [52, 57], [53, 48],
      [49, 26376], [50, 26376], [51, 26376], [52, 26376], [53, 26376], [54, 26376],
      [55, 26376], [56, 26376], [57, 26376], [49, 48, 26376], [49, 49, 26376],
      [49, 50, 26376], [104, 103], [101, 114, 103], [101, 118], [108, 116, 100]]),
    (13055, [[20196, 21644], [12450, 12497, 12540, 12488], [12450, 12523, 12501, 12449],
      [12450, 12531, 12506, 12450], [12450, 12540, 12523], [12452, 12491, 12531, 12464],
      [12452, 12531, 12481], [12454, 12457, 12531], [12456, 12473, 12463, 12540, 12489],
      [12456, 12540, 12459, 12540], [12458, 12531, 12473], [12458, 12540, 12512],
      [12459, 12452, 12522], [12459, 12521, 12483, 12488], [12459, 12525, 12522, 12540],
      [12460, 12525, 12531], [12460, 12531, 12510], [12462, 12460], [12462, 12491, 12540],
      [12461, 12517, 12522, 12540], [12462, 12523, 12480, 12540], [12461, 12525],
      [12461, 12525, 12464, 12521, 12512], [12461, 12525, 12513, 12540, 12488, 12523],
      [12461, 12525, 12527, 12483, 12488], [12464, 12521, 12512],
      [12464, 12521, 12512, 12488, 12531], [12463, 12523, 12476, 12452, 12525],
      [12463, 12525, 12540, 12493], [12465, 12540, 12473], [12467, 12523, 12490],
      [12467, 12540, 12509], [12469, 12452, 12463, 12523],
      [12469, 12531, 12481, 12540, 12512], [12471, 12522, 12531, 12464],
      [12475, 12531, 12481], [12475, 12531, 12488], [12480, 12540, 12473], [12487, 12471],
      [12489, 12523], [12488, 12531], [12490, 12494], [12494, 12483, 12488],
      [12495, 12452, 12484], [12497, 12540, 12475, 12531, 12488], [12497, 12540, 12484],
      [12496, 12540, 12524, 12523], [12500, 12450, 12473, 12488, 12523],
      [12500, 12463, 12523], [12500, 12467], [12499, 12523],
      [12501, 12449, 12521, 12483, 12489], [12501, 12451, 12540, 12488],
      [12502, 12483, 12471, 12455, 12523], [12501, 12521, 12531],
      [12504, 12463, 12479, 12540, 12523], [12506, 12477], [12506, 12491, 12498],
      [12504, 12523, 12484], [12506, 12531, 12473], [12506, 12540, 12472],
      [12505, 12540, 12479], [12509, 12452, 12531, 12488], [12508, 12523, 12488],
      [12507, 12531], [12509, 12531, 12489], [12507, 12540, 12523], [12507, 12540, 12531],
      [12510, 12452, 12463, 12525], [12510, 12452, 12523], [12510, 12483, 12495],
      [12510, 12523, 12463], [12510, 12531, 12471, 12519, 12531],
      [12511, 12463, 12525, 12531], [12511, 12522], [12511, 12522, 12496, 12540, 12523],
      [12513, 12460], [12513, 12460, 12488, 12531], [12513, 12540, 12488, 12523],
      [12516, 12540, 12489], [12516, 12540, 12523], [12518, 12450, 12531],
      [12522, 12483, 12488, 12523], [12522, 12521], [12523, 12500, 12540],
      [12523, 12540, 12502, 12523], [12524, 12512], [12524, 12531, 12488, 12466, 12531],
      [12527, 12483, 12488], [48, 28857], [49, 28857], [50, 28857], [51, 28857],
      [52, 28857], [53, 28857], [54, 28857], [55, 28857], [56, 28857], [57, 28857],
      [49, 48, 28857], [49, 49, 28857], [49, 50, 28857], [49, 51, 28857], [49, 52, 28857],
      [49, 53, 28857], [49, 54, 28857], [49, 55, 28857], [49, 56, 28857], [49, 57, 28857],
      [50, 48, 28857], [50, 49, 28857], [50, 50, 28857], [50, 51, 28857], [50, 52, 28857],
      [104, 112, 97], [100, 97], [97, 117], [98, 97, 114], [111, 118], [112, 99],
      [100, 109], [100, 109, 50], [100, 109, 51], [105, 117], [24179, 25104],
      [26157, 21644], [22823, 27491], [26126, 27835], [26666, 24335, 20250, 31038],
      [112, 97], [110, 97], [956, 97], [109, 97], [107, 97], [107, 98], [109, 98],
      [103, 98], [99, 97, 108], [107, 99, 97, 108], [112, 102], [110, 102], [956, 102],
      [956, 103], [109, 103], [107, 103], [104, 122], [107, 104, 122], [109, 104, 122],
      [103, 104, 122], [116, 104, 122], [956, 108], [109, 108], [100, 108], [107, 108],
      [102, 109], [110, 109], [956, 109], [109, 109], [99, 109], [107, 109],
      [109, 109, 50], [99, 109, 50], [109, 50], [107, 109, 50], [109, 109, 51],
      [99, 109, 51], [109, 51], [107, 109, 51], [109, 8725, 115], [109, 8725, 115, 50],
      [112, 97], [107, 112, 97], [109, 112, 97], [103, 112, 97], [114, 97, 100],
      [114, 97, 100, 8725, 115], [114, 97, 100, 8725, 115, 50], [112, 115], [110, 115],
      [956, 115], [109, 115], [112, 118], [110, 118], [956, 118], [109, 118], [107, 118],
      [109, 118], [112, 119], [110, 119], [956, 119], [109, 119], [107, 119], [109, 119],
      [107, 969], [109, 969]]),
    (13251, [[98, 113], [99, 99], [99, 100], [99, 8725, 107, 103]]),
    (13256, [[100, 98], [103, 121], [104, 97], [104, 112], [105, 110], [107, 107],
      [107, 109], [107, 116], [108, 109], [108, 110], [108, 111, 103], [108, 120],
      [109, 98], [109, 105, 108], [109, 111, 108], [112, 104]]),
    (13273, [[112, 112, 109], [112, 114], [115, 114], [115, 118], [119, 98],
      [118, 8725, 109], [97, 8725, 109], [49, 26085], [50, 26085], [51, 26085],
      [52, 26085], [53, 26085], [54, 26085], [55, 26085], [56, 26085], [57, 26085],
      [49, 48, 26085], [49, 49, 26085], [49, 50, 26085], [49, 51, 26085], [49, 52, 26085],
      [49, 53, 26085], [49, 54, 26085], [49, 55, 26085], [49, 56, 26085], [49, 57, 26085],
      [50, 48, 26085], [50, 49, 26085], [50, 50, 26085], [50, 51, 26085], [50, 52, 26085],
      [50, 53, 26085], [50, 54, 26085], [50, 55, 26085], [50, 56, 26085], [50, 57, 26085],
      [51, 48, 26085], [51, 49, 26085], [103, 97, 108]]),
    (64256, [[102, 102], [102, 105], [102, 108], [102, 102, 105], [102, 102, 108],
      [115, 116], [115, 116]]),
    (64275, [[1396, 1398], [1396, 1381], [1396, 1387], [1406, 1398], [1396, 1389]]),
    (64285, [[1497, 1460]]),
    (64287, [[1522, 1463]]),
    (64298, [[1513, 1473], [1513, 1474], [1513, 1468, 1473], [1513, 1468, 1474],
      [1488, 1463], [1488, 1464], [1488, 1468], [1489, 1468], [1490, 1468], [1491, 1468],
      [1492, 1468], [1493, 1468], [1494, 1468]]),
    (64312, [[1496, 1468], [1497, 1468], [1498, 1468], [1499, 1468], [1500, 1468]]),
    (64318, [[1502, 1468]]),
    (64320, [[1504, 1468], [1505, 1468]]),
    (64323, [[1507, 1468], [1508, 1468]]),
    (64326, [[1510, 1468], [1511, 1468], [1512, 1468], [1513, 1468], [1514, 1468],
      [1493, 1465], [1489, 1471], [1499, 1471], [1508, 1471], [1488, 1500]]),
    (64477, [[1735, 1652]]),
    (64490, [[1574, 1575], [1574, 1575], [1574, 1749], [1574, 1749], [1574, 1608],
      [1574, 1608], [1574, 1735], [1574, 1735], [1574, 1734], [1574, 1734], [1574, 1736],
      [1574, 1736], [1574, 1744], [1574, 1744], [1574, 1744], [1574, 1609], [1574, 1609],
      [1574, 1609]]),
    (64512, [[1574, 1580], [1574, 1581], [1574, 1605], [1574, 1609], [1574, 1610],
      [1576, 1580], [1576, 1581], [1576, 1582], [1576, 1605], [1576, 1609], [1576, 1610],
      [1578, 1580], [1578, 1581], [1578, 1582], [1578, 1605], [1578, 1609], [1578, 1610],
      [1579, 1580], [1579, 1605], [1579, 1609], [1579, 1610], [1580, 1581], [1580, 1605],
      [1581, 1580], [1581, 1605], [1582, 1580], [1582, 1581], [1582, 1605], [1587, 1580],
      [1587, 1581], [1587, 1582], [1587, 1605], [1589, 1581], [1589, 1605], [1590, 1580],
      [1590, 1581], [1590, 1582], [1590, 1605], [1591, 1581], [1591, 1605], [1592, 1605],
      [1593, 1580], [1593, 1605], [1594, 1580], [1594, 1605], [1601, 1580], [1601, 1581],
      [1601, 1582], [1601, 1605], [1601, 1609], [1601, 1610], [1602, 1581], [1602, 1605],
      [1602, 1609], [1602, 1610], [1603, 1575], [1603, 1580], [1603, 1581], [1603, 1582],
      [1603, 1604], [1603, 1605], [1603, 1609], [1603, 1610], [1604, 1580], [1604, 1581],
      [1604, 1582], [1604, 1605], [1604, 1609], [1604, 1610], [1605, 1580], [1605, 1581],
      [1605, 1582], [1605, 1605], [1605, 1609], [1605, 1610], [1606, 1580], [1606, 1581],
      [1606, 1582], [1606, 1605], [1606, 1609], [1606, 1610], [1607, 1580], [1607, 1605],
      [1607, 1609], [1607, 1610], [1610, 1580], [1610, 1581], [1610, 1582], [1610, 1605],
      [1610, 1609], [1610, 1610], [1584, 1648], [1585, 1648], [1609, 1648],
      [32, 1612, 1617], [32, 1613, 1617], [32, 1614, 1617], [32, 1615, 1617],
      [32, 1616, 1617], [32, 1617, 1648], [1574, 1585], [1574, 1586], [1574, 1605],
      [1574, 1606], [1574, 1609], [1574, 1610], [1576, 1585], [1576, 1586], [1576, 1605],
      [1576, 1606], [1576, 1609], [1576, 1610], [1578, 1585], [1578, 1586], [1578, 1605],
      [1578, 1606], [1578, 1609], [1578, 1610], [1579, 1585], [1579, 1586], [1579, 1605],
      [1579, 1606], [1579, 1609], [1579, 1610], [1601, 1609], [1601, 1610], [1602, 1609],
      [1602, 1610], [1603, 1575], [1603, 1604], [1603, 1605], [1603, 1609], [1603, 1610],
      [1604, 1605], [1604, 1609], [1604, 1610], [1605, 1575], [1605, 1605], [1606, 1585],
      [1606, 1586], [1606, 1605], [1606, 1606], [1606, 1609], [1606, 1610], [1609, 1648],
      [1610, 1585], [1610, 1586], [1610, 1605], [1610, 1606], [1610, 1609], [1610, 1610],
      [1574, 1580], [1574, 1581], [1574, 1582], [1574, 1605], [1574, 1607], [1576, 1580],
      [1576, 1581], [1576, 1582], [1576, 1605], [1576, 1607], [1578, 1580], [1578, 1581],
      [1578, 1582], [1578, 1605], [1578, 1607], [1579, 1605], [1580, 1581], [1580, 1605],
      [1581, 1580], [1581, 1605], [1582, 1580], [1582, 1605], [1587, 1580], [1587, 1581],
      [1587, 1582], [1587, 1605], [1589, 1581], [1589, 1582], [1589, 1605], [1590, 1580],
      [1590, 1581], [1590, 1582], [1590, 1605], [1591, 1581], [1592, 1605], [1593, 1580],
      [1593, 1605], [1594, 1580], [1594, 1605], [1601, 1580], [1601, 1581], [1601, 1582],
      [1601, 1605], [1602, 1581], [1602, 1605], [1603, 1580], [1603, 1581], [1603, 1582],
      [1603, 1604], [1603, 1605], [1604, 1580], [1604, 1581], [1604, 1582], [1604, 1605],
      [1604, 1607], [1605, 1580], [1605, 1581], [1605, 1582], [1605, 1605], [1606, 1580],
      [1606, 1581], [1606, 1582], [1606, 1605], [1606, 1607], [1607, 1580], [1607, 1605],
      [1607, 1648], [1610, 1580], [1610, 1581], [1610, 1582], [1610, 1605], [1610, 1607],
      [1574, 1605], [1574, 1607], [1576, 1605], [1576, 1607], [1578, 1605], [1578, 1607],
      [1579, 1605], [1579, 1607], [1587, 1605], [1587, 1607], [1588, 1605], [1588, 1607],
      [1603, 1604], [1603, 1605], [1604, 1605], [1606, 1605], [1606, 1607], [1610, 1605],
      [1610, 1607], [1600, 1614, 1617], [1600, 1615, 1617], [1600, 1616, 1617],
      [1591, 1609], [1591, 1610], [1593, 1609], [1593, 1610], [1594, 1609], [1594, 1610],
      [1587, 1609], [1587, 1610], [1588, 1609], [1588, 1610], [1581, 1609], [1581, 1610],
      [1580, 1609], [1580, 1610], [1582, 1609], [1582, 1610], [1589, 1609], [1589, 1610],
      [1590, 1609], [1590, 1610], [1588, 1580], [1588, 1581], [1588, 1582], [1588, 1605],
      [1588, 1585], [1587, 1585], [1589, 1585], [1590, 1585], [1591, 1609], [1591, 1610],
      [1593, 1609], [1593, 1610], [1594, 1609], [1594, 1610], [1587, 1609], [1587, 1610],
      [1588, 1609], [1588, 1610], [1581, 1609], [1581, 1610], [1580, 1609], [1580, 1610],
      [1582, 1609], [1582, 1610], [1589, 1609], [1589, 1610], [1590, 1609], [1590, 1610],
      [1588, 1580], [1588, 1581], [1588, 1582], [1588, 1605], [1588, 1585], [1587, 1585],
      [1589, 1585], [1590, 1585], [1588, 1580], [1588, 1581], [1588, 1582], [1588, 1605],
      [1587, 1607], [1588, 1607], [1591, 1605], [1587, 1580], [1587, 1581], [1587, 1582],
      [1588, 1580], [1588, 1581], [1588, 1582], [1591, 1605], [1592, 1605], [1575, 1611],
      [1575, 1611]]),
    (64848, [[1578, 1580, 1605], [1578, 1581, 1580], [1578, 1581, 1580],
      [1578, 1581, 1605], [1578, 1582, 1605], [1578, 1605, 1580], [1578, 1605, 1581],
      [1578, 1605, 1582], [1580, 1605, 1581], [1580, 1605, 1581], [1581, 1605, 1610],
      [1581, 1605, 1609], [1587, 1581, 1580], [1587, 1580, 1581], [1587, 1580, 1609],
      [1587, 1605, 1581], [1587, 1605, 1581], [1587, 1605, 1580], [1587, 1605, 1605],
      [1587, 1605, 1605], [1589, 1581, 1581], [1589, 1581, 1581], [1589, 1605, 1605],
      [1588, 1581, 1605], [1588, 1581, 1605], [1588, 1580, 1610], [1588, 1605, 1582],
      [1588, 1605, 1582], [1588, 1605, 1605], [1588, 1605, 1605], [1590, 1581, 1609],
      [1590, 1582, 1605], [1590, 1582, 1605], [1591, 1605, 1581], [1591, 1605, 1581],
      [1591, 1605, 1605], [1591, 1605, 1610], [1593, 1580, 1605], [1593, 1605, 1605],
      [1593, 1605, 1605], [1593, 1605, 1609], [1594, 1605, 1605], [1594, 1605, 1610],
      [1594, 1605, 1609], [1601, 1582, 1605], [1601, 1582, 1605], [1602, 1605, 1581],
      [1602, 1605, 1605], [1604, 1581, 1605], [1604, 1581, 1610], [1604, 1581, 1609],
      [1604, 1580, 1580], [1604, 1580, 1580], [1604, 1582, 1605], [1604, 1582, 1605],
      [1604, 1605, 1581], [1604, 1605, 1581], [1605, 1581, 1580], [1605, 1581, 1605],
      [1605, 1581, 1610], [1605, 1580, 1581], [1605, 1580, 1605], [1605, 1582, 1580],
      [1605, 1582, 1605]]),
    (64914, [[1605, 1580, 1582], [1607, 1605, 1580], [1607, 1605, 1605],
      [1606, 1581, 1605], [1606, 1581, 1609], [1606, 1580, 1605], [1606, 1580, 1605],
      [1606, 1580, 1609], [1606, 1605, 1610], [1606, 1605, 1609], [1610, 1605, 1605],
      [1610, 1605, 1605], [1576, 1582, 1610], [1578, 1580, 1610], [1578, 1580, 1609],
      [1578, 1582, 1610], [1578, 1582, 1609], [1578, 1605, 1610], [1578, 1605, 1609],
      [1580, 1605, 1610], [1580, 1581, 1609], [1580, 1605, 1609], [1587, 1582, 1609],
      [1589, 1581, 1610], [1588, 1581, 1610], [1590, 1581, 1610], [1604, 1580, 1610],
      [1604, 1605, 1610], [1610, 1581, 1610], [1610, 1580, 1610], [1610, 1605, 1610],
      [1605, 1605, 1610], [1602, 1605, 1610], [1606, 1581, 1610], [1602, 1605, 1581],
      [1604, 1581, 1605], [1593, 1605, 1610], [1603, 1605, 1610], [1606, 1580, 1581],
      [1605, 1582, 1610], [1604, 1580, 1605], [1603, 1605, 1605], [1604, 1580, 1605],
      [1606, 1580, 1581], [1580, 1581, 1610], [1581, 1580, 1610], [1605, 1580, 1610],
      [1601, 1605, 1610], [1576, 1581, 1610], [1603, 1605, 1605], [1593, 1580, 1605],
      [1589, 1605, 1605], [1587, 1582, 1610], [1606, 1580, 1610]]),
    (65008, [[1589, 1604, 1746], [1602, 1604, 1746], [1575, 1604, 1604, 1607],
      [1575, 1603, 1576, 1585], [1605, 1581, 1605, 1583], [1589, 1604, 1593, 1605],
      [1585, 1587, 1608, 1604], [1593, 1604, 1610, 1607], [1608, 1587, 1604, 1605],
      [1589, 1604, 1609],
      [1589, 1604, 1609, 32, 1575, 1604, 1604, 1607, 32, 1593, 1604, 1610, 1607, 32,
        1608, 1587, 1604, 1605],
      [1580, 1604, 32, 1580, 1604, 1575, 1604, 1607], [1585, 1740, 1575, 1604]]),
    (65097, [[32, 773], [32, 773], [32, 773], [32, 773]]),
    (65136, [[32, 1611], [1600, 1611], [32, 1612]]),
    (65140, [[32, 1613]]),
    (65142, [[32, 1614], [1600, 1614], [32, 1615], [1600, 1615], [32, 1616], [1600, 1616],
      [32, 1617], [1600, 1617], [32, 1618], [1600, 1618]]),
    (65269, [[1604, 1570], [1604, 1570], [1604, 1571], [1604, 1571], [1604, 1573],
      [1604, 1573], [1604, 1575], [1604, 1575]]),
    (65507, [[32, 772]]),
    (119134, [[119127, 119141], [119128, 119141], [119128, 119141, 119150],
      [119128, 119141, 119151], [119128, 119141, 119152], [119128, 119141, 119153],
      [119128, 119141, 119154]]),
    (119227, [[119225, 119141], [119226, 119141], [119225, 119141, 119150],
      [119226, 119141, 119150], [119225, 119141, 119151], [119226, 119141, 119151]]),
    (127233, [[48, 44], [49, 44], [50, 44], [51, 44], [52, 44], [53, 44], [54, 44],
      [55, 44], [56, 44], [57, 44]]),
    (127248, [[40, 97, 41], [40, 98, 41], [40, 99, 41], [40, 100, 41], [40, 101, 41],
      [40, 102, 41], [40, 103, 41], [40, 104, 41], [40, 105, 41], [40, 106, 41],
      [40, 107, 41], [40, 108, 41], [40, 109, 41], [40, 110, 41], [40, 111, 41],
      [40, 112, 41], [40, 113, 41], [40, 114, 41], [40, 115, 41], [40, 116, 41],
      [40, 117, 41], [40, 118, 41], [40, 119, 41], [40, 120, 41], [40, 121, 41],
      [40, 122, 41], [12308, 115, 12309]]),
    (127277, [[99, 100], [119, 122]]),
    (127306, [[104, 118], [109, 118], [115, 100], [115, 115], [112, 112, 118],
      [119, 99]]),
    (127338, [[109, 99], [109, 100], [109, 114]]),
    (127376, [[100, 106]]),
    (127488, [[12411, 12363], [12467, 12467]]),
    (127552, [[12308, 26412, 12309], [12308, 19977, 12309], [12308, 20108, 12309],
      [12308, 23433, 12309], [12308, 28857, 12309], [12308, 25171, 12309],
      [12308, 30423, 12309], [12308, 21213, 12309], [12308, 25943, 12309]])]

end Domain
end Whereabouts
